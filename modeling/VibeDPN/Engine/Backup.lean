import VibeDPN.Lib.Paths
import VibeDPN.Lib.Runs
import VibeDPN.Lib.Text

namespace VibeDPN

open Text FileTree

def configFile : String := "config.yaml"
def envFile : String := ".env"
def secretsDir : String := "secrets"
def dataDir : String := "data"

def backupMembers : List String := [configFile, envFile, secretsDir, dataDir]

inductive MemberType where
  | file | dir | sym | lnk | other
deriving DecidableEq

structure TarInfo where
  name : String
  type : MemberType
  linkname : String := ""
deriving DecidableEq

-- the parts of a PurePosixPath, its root left out
def parts (path : String) : List String :=
  (split '/' path).filter (fun part => part ≠ "" && part ≠ ".")

def isAbsolute (path : String) : Bool := startsWith path "/"

-- a path as the kernel walks it: a / behind the last name asks for a directory, as /. does
def steps (path : String) : List String :=
  let names := split '/' path
  names.filter (· ≠ "") ++ if names.getLast? = some "" then ["."] else []

-- os.path.normpath, on the parts of a relative path
def normpath (comps : List String) : List String :=
  comps.foldl (fun new comp =>
    if comp ≠ ".." ∨ new = [] ∨ new.getLast? = some ".." then new ++ [comp] else new.dropLast) []

namespace TarInfo

def path (member : TarInfo) : List String := parts member.name

def isLink (member : TarInfo) : Bool := member.type = .sym || member.type = .lnk

def resolved (member : TarInfo) : List String :=
  if member.type = .lnk then parts member.linkname
  else member.path.dropLast ++ parts member.linkname

def pointsOutside (member : TarInfo) : Bool :=
  isAbsolute member.name || ".." ∈ member.path || member.path = []

def linksOutside (member : TarInfo) : Bool :=
  isAbsolute member.linkname || ".." ∈ normpath member.resolved

def check (member : TarInfo) : Except String String :=
  if member.pointsOutside then
    .error ("archive member " ++ quoted member.name ++ " points outside the box")
  else if member.path.headD "" ∉ backupMembers then
    .error ("archive member " ++ quoted member.name ++ " is not part of a VibeDPN backup")
  else if member.type = .other then
    .error ("archive member " ++ quoted member.name ++ " is a device or a pipe")
  else if member.isLink && member.linksOutside then
    .error ("archive member " ++ quoted member.name ++ " links outside the box")
  else .ok (member.path.headD "")

end TarInfo

inductive Making where
  | file
  | dir
  | sym (absolute : Bool) (target : List String)
  | lnk (target : List String)

def Making.apply (links : Nat) (box cur : Place) (name : String) (w : World) : Making → World
  | .file => w.createFile links cur name
  | .dir => w.makeDir (name :: cur)
  | .sym absolute target => w.symlink (name :: cur) absolute target
  | .lnk target => w.hardLink links box (name :: cur) target

-- the link leads nowhere but into the box from where it really lands
def Making.fits (links : Nat) (box cur : Place) (w : World) : Making → Bool
  | .file => true
  | .dir => true
  | .sym _ target => w.tree.fits box cur target
  | .lnk target =>
    w.tree.fits box box target.dropLast &&
      match w.entry links box target with
      | some (.link _ target) => w.tree.fits box cur target
      | _ => true

structure EmptyBox (w : World) (box : Place) : Prop where
  dir : w.tree box = some .dir
  empty : ∀ place, Inside box place → place ≠ box → w.tree place = none
  untouched : w.touched = []

section

variable {tar : Tar} {archive earlier : List TarInfo} {path : List String} {box : Place} {w : World}
  {member : TarInfo}

theorem EmptyBox.safe (h : EmptyBox w box) : w.Safe box := by
  refine ⟨⟨h.dir, fun place node hi hn => ?_⟩, by simp [h.untouched]⟩
  by_cases hp : place = box
  · rw [hp, h.dir] at hn
    cases hn
    trivial
  · rw [h.empty place hi hp] at hn
    cases hn

def Making.Relative : Making → Prop
  | .sym absolute _ => absolute = false
  | _ => True

structure Landed (box : Place) (result : World × Option (Place × String × Making)) : Prop where
  safe : result.1.Safe box
  inside : ∀ cur name making, result.2 = some (cur, name, making) →
    Inside box cur ∧ name ≠ ".." ∧ making.Relative

theorem Landed.none (hs : w.Safe box) : Landed box (w, none) := ⟨hs, by simp⟩

theorem Landed.some {cur : Place} {name : String} {making : Making} (hs : w.Safe box)
    (hi : Inside box cur) (hn : name ≠ "..") (hr : making.Relative) :
    Landed box (w, some (cur, name, making)) := by
  refine ⟨hs, fun cur' name' making' h => ?_⟩
  cases h
  exact ⟨hi, hn, hr⟩

end

end VibeDPN
