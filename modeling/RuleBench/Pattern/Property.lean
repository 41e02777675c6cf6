import RuleBench.Pattern.Tree
import RuleBench.Pattern.Property.Age
import RuleBench.Pattern.Property.Binary
import RuleBench.Pattern.Property.Category
import RuleBench.Pattern.Property.Script
import RuleBench.Pattern.Property.ScriptExtension
import RuleBench.Pattern.Property.Word

set_option autoImplicit false

/-!
# Classes by property

Names are compared without blanks, hyphens, underscores and letter case, and without `is` in front.
A name alone is that of a binary property, a category or a script, in this order.
-/

namespace RuleBench.Pattern

open Text

/-- The last code point. -/
def lastCode : Nat := 0x10FFFF

namespace Property

def isFiller (c : Char) : Bool := c == ' ' || c == '_' || c == '-'

/-- A name in the form in which names are compared.  `isc` stays whole, since it would become the
name of a category. -/
def comparable (name : List Char) : String :=
  let tidy (s : List Char) := (s.filter fun c => !isFiller c && c.toNat < 128).map Char.toLower
  match name with
  | i :: s :: rest =>
    if i.toLower = 'i' && s.toLower = 's' then
      if tidy rest = ['c'] then "isc" else String.ofList (tidy rest)
    else String.ofList (tidy name)
  | _ => String.ofList (tidy name)

/-- Binary properties and their short names. -/
def binaryNames : List (String × List String) :=
  [("ASCII_Hex_Digit", ["ahex"]), ("Alphabetic", ["alpha"]), ("Bidi_Control", ["bidic"]),
   ("Bidi_Mirrored", ["bidim"]), ("Case_Ignorable", ["ci"]), ("Cased", []),
   ("Changes_When_Casefolded", ["cwcf"]), ("Changes_When_Casemapped", ["cwcm"]),
   ("Changes_When_Lowercased", ["cwl"]), ("Changes_When_Titlecased", ["cwt"]),
   ("Changes_When_Uppercased", ["cwu"]), ("Dash", []), ("Default_Ignorable_Code_Point", ["di"]),
   ("Deprecated", ["dep"]), ("Diacritic", ["dia"]), ("Emoji", []), ("Emoji_Component", ["ecomp"]),
   ("Emoji_Modifier", ["emod"]), ("Emoji_Modifier_Base", ["ebase"]),
   ("Emoji_Presentation", ["epres"]), ("Extended_Pictographic", ["extpict"]), ("Extender", ["ext"]),
   ("Grapheme_Base", ["grbase"]), ("Grapheme_Extend", ["grext"]), ("Hex_Digit", ["hex"]),
   ("Hyphen", []), ("IDS_Binary_Operator", ["idsb"]), ("IDS_Trinary_Operator", ["idst"]),
   ("ID_Continue", ["idc"]), ("ID_Start", ["ids"]), ("Ideographic", ["ideo"]),
   ("Join_Control", ["joinc"]), ("Logical_Order_Exception", ["loe"]), ("Lowercase", ["lower"]),
   ("Math", []), ("Noncharacter_Code_Point", ["nchar"]), ("Pattern_Syntax", ["patsyn"]),
   ("Pattern_White_Space", ["patws"]), ("Prepended_Concatenation_Mark", ["pcm"]),
   ("Quotation_Mark", ["qmark"]), ("Radical", []), ("Regional_Indicator", ["ri"]),
   ("Sentence_Terminal", ["sterm"]), ("Soft_Dotted", ["sd"]), ("Terminal_Punctuation", ["term"]),
   ("Unified_Ideograph", ["uideo"]), ("Uppercase", ["upper"]), ("Variation_Selector", ["vs"]),
   ("White_Space", ["wspace", "space"]), ("XID_Continue", ["xidc"]), ("XID_Start", ["xids"])]

/-- Properties that have values. -/
inductive Valued where
  | category
  | script
  | scriptExtensions
  | age

def valuedNames : List (String × Valued) :=
  [("gc", .category), ("generalcategory", .category), ("sc", .script), ("script", .script),
   ("scx", .scriptExtensions), ("scriptextensions", .scriptExtensions), ("age", .age)]

/-- Names of properties of which no set can be asked for. -/
def otherNames : List String :=
  ["bc", "bidiclass", "bidimirroringglyph", "bidipairedbracket", "bidipairedbrackettype", "blk",
   "block", "bmg", "bpb", "bpt", "canonicalcombiningclass", "casefolding", "ccc", "ce", "cf",
   "changeswhennfkccasefolded", "cjkaccountingnumeric", "cjkcompatibilityvariant", "cjkiicore",
   "cjkirggsource", "cjkirghsource", "cjkirgjsource", "cjkirgkpsource", "cjkirgksource",
   "cjkirgmsource", "cjkirgssource", "cjkirgtsource", "cjkirguksource", "cjkirgusource",
   "cjkirgvsource", "cjkothernumeric", "cjkprimarynumeric", "cjkrsunicode", "compex",
   "compositionexclusion", "cwkcf", "decompositionmapping", "decompositiontype", "dm", "dt", "ea",
   "eastasianwidth", "equideo", "equivalentunifiedideograph", "expandsonnfc", "expandsonnfd",
   "expandsonnfkc", "expandsonnfkd", "fcnfkc", "fcnfkcclosure", "fullcompositionexclusion", "gcb",
   "graphemeclusterbreak", "graphemelink", "grlink", "hangulsyllabletype", "hst",
   "idcompatmathcontinue", "idcompatmathstart", "idsu", "idsunaryoperator", "incb",
   "indicconjunctbreak", "indicpositionalcategory", "indicsyllabiccategory", "inpc", "insc", "isc",
   "isocomment", "jamoshortname", "jg", "joininggroup", "joiningtype", "jsn", "jt",
   "kaccountingnumeric", "kcompatibilityvariant", "kiicore", "kirggsource", "kirghsource",
   "kirgjsource", "kirgkpsource", "kirgksource", "kirgmsource", "kirgssource", "kirgtsource",
   "kirguksource", "kirgusource", "kirgvsource", "kothernumeric", "kprimarynumeric", "krsunicode",
   "lb", "lc", "linebreak", "lowercasemapping", "mcm", "modifiercombiningmark", "na", "na1", "name",
   "namealias", "nfcqc", "nfcquickcheck", "nfdqc", "nfdquickcheck", "nfkccasefold", "nfkccf",
   "nfkcqc", "nfkcquickcheck", "nfkcscf", "nfkcsimplecasefold", "nfkdqc", "nfkdquickcheck", "nt",
   "numerictype", "numericvalue", "nv", "oalpha", "ocomment", "odi", "ogrext", "oidc", "oids",
   "olower", "omath", "otheralphabetic", "otherdefaultignorablecodepoint", "othergraphemeextend",
   "otheridcontinue", "otheridstart", "otherlowercase", "othermath", "otheruppercase", "oupper",
   "sb", "scf", "sentencebreak", "sfc", "simplecasefolding", "simplelowercasemapping",
   "simpletitlecasemapping", "simpleuppercasemapping", "slc", "stc", "suc", "tc",
   "titlecasemapping", "uc", "unicode1name", "unicoderadicalstroke", "uppercasemapping", "urs",
   "verticalorientation", "vo", "wb", "wordbreak", "xonfc", "xonfd", "xonfkc", "xonfkd"]

/-- The sets of a packed table under one of some names. -/
def packed (table : List (String × List String)) (keys : List String) : CodeSet :=
  table.flatMap fun e => if keys.contains e.1 then CodeSet.ofCode e.2
        else []

def binary? (name : String) : Option CodeSet :=
  (binaryNames.find? fun e => comparable e.1.toList = name || e.2.contains name).map fun e =>
    packed binaryCode [e.1]

/-- Categories in a table of their own: all but those made up of others. -/
def assigned : CodeSet := categoryCode.flatMap fun e => CodeSet.ofCode e.2

/-- The code points of a category, or of all whose code begins with its letter. -/
def categorySet (code : String) : CodeSet :=
  let surrogates : CodeSet := [(0xD800, 0xDFFF)]
  let unassigned := CodeSet.complement lastCode (assigned ++ surrogates)
  match code with
  | "LC" => packed categoryCode ["Lu", "Ll", "Lt"]
  | "Cn" => unassigned
  | "Cs" => surrogates
  | "C" => packed categoryCode ["Cc", "Cf", "Co"] ++ surrogates ++ unassigned
  | code =>
    if code.length = 1 then
      categoryCode.flatMap fun e => if code.toList.isPrefixOf e.1.toList then CodeSet.ofCode e.2
        else []
    else packed categoryCode [code]

def category? (name : String) : Option CodeSet :=
  match name with
  | "any" => some [(0, lastCode)]
  | "assigned" => some (CodeSet.complement lastCode (categorySet "Cn"))
  | "ascii" => some [(0, 127)]
  | name => (categoryNames.find? fun e => e.2.contains name).map fun e => categorySet e.1

def script? (name : String) : Option CodeSet :=
  (scriptNames.find? fun e => e.2.contains name).map fun e => packed scriptCode [e.1]

/-- The code points that are used with a script. -/
def scriptExtensions? (name : String) : Option CodeSet :=
  (scriptNames.find? fun e => e.2.contains name).map fun e =>
    if scriptExtensionCode.any fun x => x.1 == e.1 then packed scriptExtensionCode [e.1]
    else packed scriptCode [e.1]

/-- The code points that a version of the standard has: `6.0` or `v60`. -/
def age? (name : String) : Option CodeSet :=
  let isThis (version : String) : Bool :=
    version == name || "v" ++ String.ofList (version.toList.filter (· != '.')) == name
  if ageCode.any fun e => isThis e.1 then
    let earlier := ageCode.takeWhile fun e => !isThis e.1
    some (packed ageCode (earlier.map (·.1)) ++
      ageCode.flatMap fun e => if isThis e.1 then CodeSet.ofCode e.2
        else [])
  else none

def isKnown (name : String) : Bool :=
  otherNames.contains name || (valuedNames.any fun e => e.1 == name) ||
    binaryNames.any fun e => comparable e.1.toList = name || e.2.contains name

/-- `cf`, `sc` and `lc` are names of categories, though they are names of properties too. -/
def byName (name : List Char) : Except Mistake CodeSet :=
  let name := comparable name
  let isAmbiguous := name == "cf" || name == "sc" || name == "lc"
  if !isAmbiguous && isKnown name then
    match binary? name with
    | some s => .ok s
    | none => .error .unknownProperty
  else
    match (category? name).orElse fun _ => script? name with
    | some s => .ok s
    | none => .error .unknownProperty

def byValue (property value : List Char) : Except Mistake CodeSet :=
  let property := comparable property
  let value := comparable value
  let found? : Option CodeSet :=
    match valuedNames.find? fun e => e.1 == property with
    | some (_, .category) => category? value
    | some (_, .script) => script? value
    | some (_, .scriptExtensions) => scriptExtensions? value
    | some (_, .age) => age? value
    | none => none
  match found? with
  | some s => .ok s
  | none => .error (if isKnown property then .unknownPropertyValue else .unknownProperty)

end Property

/-- The code points that a query asks for. -/
def Query.codes : Query → Except Mistake CodeSet
  | .byName name => Property.byName name
  | .byValue property value => Property.byValue property value

end RuleBench.Pattern
