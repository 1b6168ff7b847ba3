import FilterQuery.Unicode.Property
import FilterQuery.Unicode.Script

/-!
# Looking up properties by name

Names of properties and of their values are compared without case, blanks, underscores and dashes,
and without `is` in front.
-/

namespace FilterQuery.Unicode

/-- A name in the form in which names are compared. `isc` names the category `c` and nothing else, so
it is kept. -/
def normalName (name : String) : String :=
  let lower := name.toList.map Char.toLower
  let body := match lower with
    | 'i' :: 's' :: rest => rest
    | cs => cs
  let kept := body.filter fun c => c.toNat < 0x80 && c != ' ' && c != '_' && c != '-'
  if kept = ['c'] && body.length < lower.length then "isc" else String.ofList kept

/-- The names of the categories and of their groups. -/
def categoryNames : List (String × List Category) := [
  ("lu uppercaseletter", [.lu]),
  ("ll lowercaseletter", [.ll]),
  ("lt titlecaseletter", [.lt]),
  ("lm modifierletter", [.lm]),
  ("lo otherletter", [.lo]),
  ("mn nonspacingmark", [.mn]),
  ("mc spacingmark", [.mc]),
  ("me enclosingmark", [.me]),
  ("nd decimalnumber digit", [.nd]),
  ("nl letternumber", [.nl]),
  ("no othernumber", [.no]),
  ("pc connectorpunctuation", [.pc]),
  ("pd dashpunctuation", [.pd]),
  ("ps openpunctuation", [.ps]),
  ("pe closepunctuation", [.pe]),
  ("pi initialpunctuation", [.pi]),
  ("pf finalpunctuation", [.pf]),
  ("po otherpunctuation", [.po]),
  ("sm mathsymbol", [.sm]),
  ("sc currencysymbol", [.sc]),
  ("sk modifiersymbol", [.sk]),
  ("so othersymbol", [.so]),
  ("zs spaceseparator", [.zs]),
  ("zl lineseparator", [.zl]),
  ("zp paragraphseparator", [.zp]),
  ("cc control cntrl", [.cc]),
  ("cf format", [.cf]),
  ("co privateuse", [.co]),
  ("cn unassigned", [.cn]),
  ("lc casedletter", [.lu, .ll, .lt]),
  ("l letter", [.lu, .ll, .lt, .lm, .lo]),
  ("m mark combiningmark", [.mn, .mc, .me]),
  ("n number", [.nd, .nl, .no]),
  ("p punctuation punct", [.pc, .pd, .ps, .pe, .pi, .pf, .po]),
  ("s symbol", [.sm, .sc, .sk, .so]),
  ("z separator", [.zs, .zl, .zp]),
  ("c other", [.cc, .cf, .co, .cn])]

/-- The characters of the category or group of that name. -/
def categoryNamed? (name : String) : Option (Char → Bool) :=
  match name with
  | "any" => some fun _ => true
  | "ascii" => some fun c => c.toNat < 0x80
  | "assigned" => some fun c => Category.of c != .cn
  | _ =>
    (categoryNames.find? fun entry => (entry.1.splitOn " ").contains name).map fun entry =>
      fun c => entry.2.contains (Category.of c)

/-- The characters of the script of that name. -/
def scriptNamed? (name : String) : Option (Char → Bool) :=
  (scriptRanges? name).map fun ranges => fun c => inRanges ranges c.toNat

/-- Pictographs and the characters they are made of. -/
def emoji : List Range := ranges [
  "23 2A 30-39 A9 AE 203C 2049 2122 2139 2194-2199 21A9-21AA 231A-231B 2328 23CF 23E9-23F3",
  "23F8-23FA 24C2 25AA-25AB 25B6 25C0 25FB-25FE 2600-2604 260E 2611 2614-2615 2618 261D 2620",
  "2622-2623 2626 262A 262E-262F 2638-263A 2640 2642 2648-2653 265F-2660 2663 2665-2666 2668",
  "267B 267E-267F 2692-2697 2699 269B-269C 26A0-26A1 26A7 26AA-26AB 26B0-26B1 26BD-26BE",
  "26C4-26C5 26C8 26CE-26CF 26D1 26D3-26D4 26E9-26EA 26F0-26F5 26F7-26FA 26FD 2702 2705",
  "2708-270D 270F 2712 2714 2716 271D 2721 2728 2733-2734 2744 2747 274C 274E 2753-2755 2757",
  "2763-2764 2795-2797 27A1 27B0 27BF 2934-2935 2B05-2B07 2B1B-2B1C 2B50 2B55 3030 303D 3297",
  "3299 1F004 1F0CF 1F170-1F171 1F17E-1F17F 1F18E 1F191-1F19A 1F1E6-1F1FF 1F201-1F202 1F21A",
  "1F22F 1F232-1F23A 1F250-1F251 1F300-1F321 1F324-1F393 1F396-1F397 1F399-1F39B 1F39E-1F3F0",
  "1F3F3-1F3F5 1F3F7-1F4FD 1F4FF-1F53D 1F549-1F54E 1F550-1F567 1F56F-1F570 1F573-1F57A 1F587",
  "1F58A-1F58D 1F590 1F595-1F596 1F5A4-1F5A5 1F5A8 1F5B1-1F5B2 1F5BC 1F5C2-1F5C4 1F5D1-1F5D3",
  "1F5DC-1F5DE 1F5E1 1F5E3 1F5E8 1F5EF 1F5F3 1F5FA-1F64F 1F680-1F6C5 1F6CB-1F6D2 1F6D5-1F6D7",
  "1F6DC-1F6E5 1F6E9 1F6EB-1F6EC 1F6F0 1F6F3-1F6FC 1F7E0-1F7EB 1F7F0 1F90C-1F93A 1F93C-1F945",
  "1F947-1F9FF 1FA70-1FA7C 1FA80-1FA88 1FA90-1FABD 1FABF-1FAC5 1FACE-1FADB 1FAE0-1FAE8",
  "1FAF0-1FAF8"]

/-- The characters with the property of that name, of those that hold or do not hold. -/
def binaryNamed? : String → Option (Char → Bool)
  | "alphabetic" | "alpha" => some isAlphabetic
  | "lowercase" | "lower" => some isLowercase
  | "uppercase" | "upper" => some isUppercase
  | "whitespace" | "wspace" | "space" => some Text.isWhiteSpace
  | "joincontrol" | "joinc" => some fun c => c.toNat == 0x200C || c.toNat == 0x200D
  | "asciihexdigit" | "ahex" => some fun c => c.isDigit || ('a' ≤ c.toLower && c.toLower ≤ 'f')
  | "graphemeextend" | "grext" => some isExtending
  | "emoji" => some fun c => inRanges emoji c.toNat
  | _ => none

/-- The characters that a single name stands for. -/
def named? (name : String) : Option (Char → Bool) :=
  let name := normalName name
  ((binaryNamed? name).or (categoryNamed? name)).or (scriptNamed? name)

inductive Lookup where
  | found (holds : Char → Bool)
  | unknownProperty
  | unknownValue

/-- The characters with a value of a property. -/
def valued (property value : String) : Lookup :=
  let value := normalName value
  let result := match normalName property with
    | "generalcategory" | "gc" => some (categoryNamed? value)
    | "script" | "sc" | "scriptextensions" | "scx" => some (scriptNamed? value)
    | _ => none
  match result with
  | some (some holds) => .found holds
  | some none => .unknownValue
  | none => .unknownProperty

end FilterQuery.Unicode
