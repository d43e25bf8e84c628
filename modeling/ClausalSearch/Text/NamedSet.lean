import ClausalSearch.Text.Age
import ClausalSearch.Text.Break
import ClausalSearch.Text.Script

/-!
Sets of characters by the name of a property, or by a property and its value. Case, blanks, hyphens,
low lines and a leading `is` do not count in names.
-/
namespace ClausalSearch.Text

inductive NameError where
  | unknownProperty
  | unknownValue
  deriving DecidableEq, Repr

/-- Drops a leading `is`; `isc` is a name of its own and no short form of `c`. -/
def dropIs (name : List Char) : List Char :=
  match name with
  | 'i' :: 's' :: rest => if rest = ['c'] then name else rest
  | _ => name

def plainName (name : List Char) : String :=
  let kept := name.filter fun c => c.toNat ≤ 0x7F && !" _-".contains c
  let lowered := kept.map Char.toLower
  String.ofList (if (name.take 2).map Char.toLower = ['i', 's'] then dropIs lowered else lowered)

def valuedProperties : List String :=
  ["age", "bc", "bidiclass", "bidimirroringglyph", "bidipairedbracket", "bidipairedbrackettype",
   "blk", "block", "bmg", "bpb", "bpt", "canonicalcombiningclass", "casefolding", "ccc", "ce",
   "cf", "changeswhennfkccasefolded", "cjkaccountingnumeric", "cjkcompatibilityvariant",
   "cjkiicore", "cjkirggsource", "cjkirghsource", "cjkirgjsource", "cjkirgkpsource",
   "cjkirgksource", "cjkirgmsource", "cjkirgssource", "cjkirgtsource", "cjkirguksource",
   "cjkirgusource", "cjkirgvsource", "cjkothernumeric", "cjkprimarynumeric", "cjkrsunicode",
   "compex", "compositionexclusion", "cwkcf", "decompositionmapping", "decompositiontype", "dm",
   "dt", "ea", "eastasianwidth", "equideo", "equivalentunifiedideograph", "expandsonnfc",
   "expandsonnfd", "expandsonnfkc", "expandsonnfkd", "fcnfkc", "fcnfkcclosure",
   "fullcompositionexclusion", "gc", "gcb", "generalcategory", "graphemeclusterbreak",
   "hangulsyllabletype", "hst", "incb", "indicconjunctbreak", "indicpositionalcategory",
   "indicsyllabiccategory", "inpc", "insc", "isc", "isocomment", "jamoshortname", "jg",
   "joininggroup", "joiningtype", "jsn", "jt", "kaccountingnumeric", "kcompatibilityvariant",
   "kiicore", "kirggsource", "kirghsource", "kirgjsource", "kirgkpsource", "kirgksource",
   "kirgmsource", "kirgssource", "kirgtsource", "kirguksource", "kirgusource", "kirgvsource",
   "kothernumeric", "kprimarynumeric", "krsunicode", "lb", "lc", "linebreak", "lowercasemapping",
   "na", "na1", "name", "namealias", "nfcqc", "nfcquickcheck", "nfdqc", "nfdquickcheck",
   "nfkccasefold", "nfkccf", "nfkcqc", "nfkcquickcheck", "nfkcscf", "nfkcsimplecasefold", "nfkdqc",
   "nfkdquickcheck", "nt", "numerictype", "numericvalue", "nv", "sb", "sc", "scf", "script",
   "scriptextensions", "scx", "sentencebreak", "sfc", "simplecasefolding",
   "simplelowercasemapping", "simpletitlecasemapping", "simpleuppercasemapping", "slc", "stc",
   "suc", "tc", "titlecasemapping", "uc", "unicode1name", "unicoderadicalstroke",
   "uppercasemapping", "urs", "verticalorientation", "vo", "wb", "wordbreak", "xonfc", "xonfd",
   "xonfkc", "xonfkd"]

/-- Names that are short both for a category and for a property; alone they mean the category. -/
def categoriesFirst : List String := ["cf", "sc", "lc"]

def emptyValues : List String :=
  ["cs", "surrogate", "hrkt", "katakanaorhiragana", "zzzz", "unknown"]

def setNamed (name : List Char) : Except NameError CharSet :=
  let plain := plainName name
  if emptyValues.contains plain then .error .unknownValue
  else if valuedProperties.contains plain && !categoriesFirst.contains plain then
    .error .unknownProperty
  else match (property? plain <|> category? plain) <|> script? plain with
    | some chars => .ok chars
    | none => .error .unknownProperty

def valueTables : List (List String × (String → Option CharSet)) :=
  [(["gc", "generalcategory"], category?), (["sc", "script"], script?),
   (["scx", "scriptextensions"], scriptUse?), (["age"], age?),
   (["gcb", "graphemeclusterbreak"], graphemeBreak?), (["wb", "wordbreak"], breakChars? wordBreaks),
   (["sb", "sentencebreak"], breakChars? sentenceBreaks)]

def setWithValue (property value : List Char) : Except NameError CharSet :=
  let name := plainName property
  match (valueTables.find? (·.1.contains name)).bind (·.2 (plainName value)) with
  | some chars => .ok chars
  | none =>
    if valuedProperties.contains name || (property? name).isSome then .error .unknownValue
    else .error .unknownProperty

end ClausalSearch.Text
