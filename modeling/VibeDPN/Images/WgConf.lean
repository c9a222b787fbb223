import VibeDPN.Lib.Text

namespace VibeDPN.WgConf

open Text

-- the records awk reads: a newline ends one
def records (text : String) : List String :=
  let l := split '\n' text
  if l.getLast? = some "" then l.dropLast else l

def isPad (c : Char) : Bool := c = ' ' || c = '\t'

def cleanLine (raw : String) : String :=
  let l := raw.toList
  let line := if l.getLast? = some '\r' then l.dropLast else l
  String.ofList (stripList isPad (line.takeWhile (· ≠ '#')))

def cleanLines (text : String) : List String := (records text).map cleanLine

def tolower (s : String) : String := String.ofList (s.toList.map Char.toLower)

def isHeader (line : String) : Bool := startsWith line "["

def isInterface (line : String) : Bool := tolower line = "[interface]"

-- the lines the digest of the interface is taken of
def interfaceLines : Bool → List String → List String
  | _, [] => []
  | inside, line :: rest =>
    if line = "" then interfaceLines inside rest
    else if isHeader line then
      if isInterface line then line :: interfaceLines true rest else interfaceLines false rest
    else if inside then line :: interfaceLines inside rest
    else interfaceLines inside rest

def padStrip (l : List Char) : String := String.ofList (stripList isPad l)

def field? (line : String) : Option (String × String) :=
  if line.toList.contains '=' then
    some (padStrip (line.toList.takeWhile (· ≠ '=')),
      padStrip (line.toList.dropWhile (· ≠ '=')).tail)
  else none

def value? (key line : String) : Option String :=
  match field? line with
  | some (name, value) => if tolower name = key ∧ value ≠ "" then some value else none
  | none => none

def confValues (key : String) : Bool → List String → List String
  | _, [] => []
  | inside, line :: rest =>
    if isHeader line then confValues key (isInterface line) rest
    else if inside then (value? key line).toList ++ confValues key inside rest
    else confValues key inside rest

def wgQuickKeys : List String :=
  ["address", "mtu", "dns", "table", "preup", "postup", "predown", "postdown", "saveconfig"]

def isDropped (fwmark line : String) : Bool :=
  match field? line with
  | some (name, _) => wgQuickKeys.contains (tolower name) || fwmark ≠ "" && tolower name = "fwmark"
  | none => false

def stripConf (fwmark : String) : Bool → List String → List String
  | _, [] => []
  | inside, line :: rest =>
    if line = "" then stripConf fwmark inside rest
    else if isHeader line then
      line :: (if isInterface line && fwmark ≠ "" then ["FwMark = " ++ fwmark] else []) ++
        stripConf fwmark (isInterface line) rest
    else if inside && isDropped fwmark line then stripConf fwmark inside rest
    else line :: stripConf fwmark inside rest

-- the section a file opens with is none
def interfaceSection (text : String) : List String := interfaceLines false (cleanLines text)

def valuesOf (key text : String) : List String := confValues key false (cleanLines text)

def stripped (fwmark text : String) : List String := stripConf fwmark false (cleanLines text)

def sectionValue? (key line : String) : Option String :=
  if isHeader line then none else value? key line

theorem value?_empty (key : String) : value? key "" = none := rfl

theorem confValues_eq (key : String) (inside : Bool) (lines : List String) :
    confValues key inside lines = (interfaceLines inside lines).filterMap (sectionValue? key) := by
  induction lines generalizing inside with
  | nil => rfl
  | cons line lines ih =>
    rw [confValues, interfaceLines]
    by_cases he : line = ""
    · subst he
      have hh : isHeader "" = false := rfl
      simp [hh, value?_empty, ih]
    · rw [if_neg he]
      cases hh : isHeader line with
      | true =>
        have hv : sectionValue? key line = none := by rw [sectionValue?, hh]; rfl
        cases hi : isInterface line with
        | true => simp [hv, ih]
        | false => simp [ih]
      | false =>
        have hv : sectionValue? key line = value? key line := by rw [sectionValue?, hh]; rfl
        cases inside with
        | true =>
          cases hk : value? key line with
          | none => simp [hv, hk, ih]
          | some value => simp [hv, hk, ih]
        | false => simp [ih]

theorem valuesOf_congr {a b : String} (h : interfaceSection a = interfaceSection b)
    (key : String) : valuesOf key a = valuesOf key b := by
  rw [valuesOf, valuesOf, confValues_eq, confValues_eq]
  exact congrArg _ h

end VibeDPN.WgConf
