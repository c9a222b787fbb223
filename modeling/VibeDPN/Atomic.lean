import VibeDPN.ConfigEdit.Editors

namespace VibeDPN

section File

variable {Text : Type} [DecidableEq Text]

-- a private file, none while there is none; a temporary file never stays
def writePrivate (content : Text) (write : WriteOutcome) (file : Option Text) :
    Option Text × Except OsError Bool :=
  if file = some content then (file, .ok false)
  else
    match write with
    | .replaced => (some content, .ok true)
    | .refused e => (file, .error e)
    | .unsynced e => (some content, .error e)

end File

abbrev Files := Dict String String

namespace Files

def put (files : Files) (name : String) : Option String → Files
  | some text => files.set name text
  | none => files.erase name

def write (files : Files) (name content : String) (write : WriteOutcome) :
    Files × Except OsError Bool :=
  let (file, result) := writePrivate content write (files.get? name)
  (files.put name file, result)

def unlink (files : Files) (name : String) (outcome : Except OsError Unit) :
    Files × Except OsError Unit :=
  match outcome with
  | .ok () => (files.erase name, .ok ())
  | .error e => (files, .error e)

variable (files : Files)

theorem get?_put {name other : String} (h : other ≠ name) (text : Option String) :
    (files.put name text).get? other = files.get? other := by
  cases text with
  | none => rw [put, Dict.get?_erase, if_neg h]
  | some text => rw [put, Dict.get?_set_ne _ _ h]

theorem get?_write {name other : String} (h : other ≠ name) (content : String)
    (write : WriteOutcome) : (files.write name content write).1.get? other = files.get? other :=
  files.get?_put h _

theorem get?_unlink {name other : String} (h : other ≠ name) (outcome : Except OsError Unit) :
    (files.unlink name outcome).1.get? other = files.get? other := by
  cases outcome with
  | ok _ => rw [unlink, Dict.get?_erase, if_neg h]
  | error e => rfl

end Files

end VibeDPN
