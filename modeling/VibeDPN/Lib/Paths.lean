import Mathlib

namespace VibeDPN

-- a place in the file tree: its names, the innermost first
abbrev Place := List String

inductive Node where
  | dir
  | file (inode : Place)
  | link (absolute : Bool) (target : List String)
deriving DecidableEq

abbrev FileTree := Place → Option Node

namespace FileTree

-- follow: what a symbolic link on the way leads on to
def locateIn (tree : FileTree) (follow : Place → List String → Option Place) :
    Place → List String → Option Place
  | cur, [] => some cur
  | cur, name :: rest =>
    if name = "." then locateIn tree follow cur rest
    else if name = ".." then locateIn tree follow cur.tail rest
    else
      match tree (name :: cur) with
      | none => if rest = [] then some (name :: cur) else none
      | some .dir => locateIn tree follow (name :: cur) rest
      | some (.file _) => if rest = [] then some (name :: cur) else none
      | some (.link absolute target) => follow (if absolute then [] else cur) (target ++ rest)

-- where a path leads through at most so many links; the last name need not exist, and a . after
-- it asks for a directory
def locate (tree : FileTree) : Nat → Place → List String → Option Place
  | 0 => fun _ _ => none
  | links + 1 => locateIn tree (locate tree links)

-- every .. is taken below the top, and none behind a name that is no directory
def fits (tree : FileTree) (top : Place) : Place → List String → Bool
  | _, [] => true
  | cur, name :: rest =>
    if name = "." then fits tree top cur rest
    else if name = ".." then cur ≠ top && fits tree top cur.tail rest
    else if tree (name :: cur) = some .dir then fits tree top (name :: cur) rest
    else ".." ∉ rest

def Inside (top place : Place) : Prop := top <:+ place

instance (top place : Place) : Decidable (Inside top place) :=
  inferInstanceAs (Decidable (top <:+ place))

def Kept (tree : FileTree) (top place : Place) : Node → Prop
  | .dir => True
  | .file inode => Inside top inode
  | .link absolute target => absolute = false ∧ tree.fits top place.tail target = true

structure Confined (tree : FileTree) (top : Place) : Prop where
  dir : tree top = some .dir
  kept : ∀ place node, Inside top place → tree place = some node → tree.Kept top place node

variable {tree : FileTree} {top cur : Place}

theorem Inside.cons (h : Inside top cur) (name : String) : Inside top (name :: cur) :=
  h.trans (List.suffix_cons name cur)

theorem Inside.tail (h : Inside top cur) (hne : cur ≠ top) : Inside top cur.tail := by
  cases cur with
  | nil => exact absurd (List.suffix_nil.mp h).symm hne
  | cons name cur =>
    rcases List.suffix_cons_iff.mp h with he | hs
    · exact absurd he.symm hne
    · exact hs

theorem fits_of_names (tree : FileTree) (top cur : Place) {comps : List String} (h : ".." ∉ comps) :
    tree.fits top cur comps = true := by
  induction comps generalizing cur with
  | nil => rfl
  | cons name rest ih =>
    rw [List.mem_cons, not_or] at h
    obtain ⟨hname, hrest⟩ := h
    rw [fits]
    split
    · exact ih cur hrest
    · rw [if_neg (Ne.symm hname)]
      split
      · exact ih (name :: cur) hrest
      · exact decide_eq_true hrest

theorem fits_append {comps rest : List String} (h : tree.fits top cur comps = true)
    (hr : ".." ∉ rest) : tree.fits top cur (comps ++ rest) = true := by
  induction comps generalizing cur with
  | nil => exact fits_of_names tree top cur hr
  | cons name comps ih =>
    rw [fits] at h
    rw [List.cons_append, fits]
    split at h
    · rw [if_pos ‹_›]
      exact ih h
    · rw [if_neg ‹_›]
      split at h
      · rw [Bool.and_eq_true] at h
        rw [if_pos ‹_›, Bool.and_eq_true]
        exact ⟨h.1, ih h.2⟩
      · rw [if_neg ‹_›]
        split at h
        · rw [if_pos ‹_›]
          exact ih h
        · rw [if_neg ‹_›, decide_eq_true_iff, List.mem_append, not_or]
          exact ⟨of_decide_eq_true h, hr⟩

theorem fits_mono {tree' : FileTree} (hd : ∀ place, tree place = some .dir → tree' place = some .dir)
    {comps : List String} (h : tree.fits top cur comps = true) :
    tree'.fits top cur comps = true := by
  induction comps generalizing cur with
  | nil => rfl
  | cons name rest ih =>
    rw [fits] at h ⊢
    split at h
    · rw [if_pos ‹_›]
      exact ih h
    · rw [if_neg ‹_›]
      split at h
      · rw [Bool.and_eq_true] at h
        rw [if_pos ‹_›, Bool.and_eq_true]
        exact ⟨h.1, ih h.2⟩
      · rw [if_neg ‹_›]
        split at h
        · rw [if_pos (hd _ ‹_›)]
          exact ih h
        · split
          · exact fits_of_names tree' top _ (of_decide_eq_true h)
          · exact h

theorem Kept.mono {tree' : FileTree} {place : Place}
    (hd : ∀ place, tree place = some .dir → tree' place = some .dir) {node : Node}
    (h : tree.Kept top place node) : tree'.Kept top place node := by
  cases node with
  | dir => trivial
  | file inode => exact h
  | link absolute target => exact ⟨h.1, fits_mono hd h.2⟩

theorem Confined.update (hc : tree.Confined top) {place : Place} {entry : Option Node}
    (hne : tree place ≠ some .dir) (hk : ∀ node, entry = some node → tree.Kept top place node) :
    Confined (Function.update tree place entry) top := by
  have hd (q : Place) (hq : tree q = some .dir) :
      Function.update tree place entry q = some .dir := by
    rw [Function.update_of_ne, hq]
    rintro rfl
    exact hne hq
  refine ⟨hd top hc.dir, fun q node hi h => ?_⟩
  by_cases he : q = place
  · subst he
    rw [Function.update_self] at h
    exact (hk node h).mono hd
  · rw [Function.update_of_ne he] at h
    exact (hc.kept q node hi h).mono hd

theorem locateIn_inside {follow : Place → List String → Option Place} (hc : tree.Confined top)
    (hf : ∀ cur comps place, Inside top cur → tree.fits top cur comps = true →
      follow cur comps = some place → Inside top place)
    {comps : List String} {place : Place} (hi : Inside top cur)
    (ht : tree.fits top cur comps = true) (h : tree.locateIn follow cur comps = some place) :
    Inside top place := by
  induction comps generalizing cur with
  | nil =>
    cases h
    exact hi
  | cons name rest ih =>
    rw [fits] at ht
    rw [locateIn] at h
    split at h
    · rw [if_pos ‹_›] at ht
      exact ih hi ht h
    · rw [if_neg ‹_›] at ht
      split at h
      · rw [if_pos ‹_›, Bool.and_eq_true, decide_eq_true_iff] at ht
        exact ih (hi.tail ht.1) ht.2 h
      · rw [if_neg ‹_›] at ht
        split at h
        · split at h
          · cases h
            exact hi.cons name
          · cases h
        · rename_i hdir
          rw [if_pos hdir] at ht
          exact ih (hi.cons name) ht h
        · split at h
          · cases h
            exact hi.cons name
          · cases h
        · rename_i absolute target hlink
          obtain ⟨rfl, hfit⟩ := hc.kept _ _ (hi.cons name) hlink
          rw [if_neg (by simp [hlink]), decide_eq_true_iff] at ht
          exact hf cur _ place hi (fits_append hfit ht) h

theorem locate_inside (hc : tree.Confined top) (links : Nat) {comps : List String} {place : Place}
    (hi : Inside top cur) (ht : tree.fits top cur comps = true)
    (h : tree.locate links cur comps = some place) : Inside top place := by
  induction links generalizing cur comps place with
  | zero => cases h
  | succ links ih => exact locateIn_inside hc (fun _ _ _ hi ht h => ih hi ht h) hi ht h

end FileTree

-- touched: every place created or written so far
structure World where
  tree : FileTree
  touched : List Place := []

namespace World

open FileTree

def put (w : World) (place : Place) (node : Node) : World :=
  ⟨Function.update w.tree place (some node), place :: w.touched⟩

def makeDir (w : World) (place : Place) : World :=
  if w.tree place = none then w.put place .dir else w

def makeDirs (links : Nat) (w : World) (cur : Place) : List String → World × Option Place
  | [] => (w, some cur)
  | name :: rest =>
    match w.tree.locate links cur [name] with
    | none => (w, none)
    | some place =>
      match w.tree place with
      | some .dir => makeDirs links w place rest
      | none =>
        if place = name :: cur then makeDirs links (w.put place .dir) place rest else (w, none)
      | _ => (w, none)

-- a file opened for writing: through a link, and into the file that is there
def createFile (links : Nat) (w : World) (cur : Place) (name : String) : World :=
  match w.tree.locate links cur [name] with
  | none => w
  | some place =>
    match w.tree place with
    | none => w.put place (.file place)
    | some (.file inode) => { w with touched := inode :: w.touched }
    | _ => w

-- a name goes, not what it stood for; a directory stays
def unlink (w : World) (place : Place) : World :=
  match w.tree place with
  | none => w
  | some .dir => w
  | some _ => ⟨Function.update w.tree place none, place :: w.touched⟩

def symlink (w : World) (place : Place) (absolute : Bool) (target : List String) : World :=
  if w.tree place = none then w.put place (.link absolute target) else w

-- what a path names without following its last link
def entry (links : Nat) (w : World) (top : Place) (target : List String) : Option Node :=
  match target.getLast?, w.tree.locate links top target.dropLast with
  | some name, some dir => if name = ".." ∨ name = "." then none else w.tree (name :: dir)
  | _, _ => none

def linked (links : Nat) (w : World) (top place : Place) (target : List String) : Option Node :=
  if w.tree place = none then (w.entry links top target).filter (· ≠ .dir) else none

def hardLink (links : Nat) (w : World) (top place : Place) (target : List String) : World :=
  match w.linked links top place target with
  | none => w
  | some node => w.put place node

structure Safe (w : World) (top : Place) : Prop where
  confined : w.tree.Confined top
  touched : ∀ place ∈ w.touched, Inside top place

structure Recorded (w w' : World) : Prop where
  touched : ∀ place ∈ w.touched, place ∈ w'.touched
  tree : ∀ place, place ∉ w'.touched → w'.tree place = w.tree place

variable {w : World} {top cur place : Place} {links : Nat}

theorem Safe.put (hs : w.Safe top) {node : Node} (hi : Inside top place)
    (hne : w.tree place ≠ some .dir) (hk : w.tree.Kept top place node) : (w.put place node).Safe top :=
  ⟨hs.confined.update hne (fun _ h => Option.some.inj h ▸ hk),
    List.forall_mem_cons.mpr ⟨hi, hs.touched⟩⟩

theorem Safe.makeDir (hs : w.Safe top) (hi : Inside top place) : (w.makeDir place).Safe top := by
  rw [World.makeDir]
  split
  · exact hs.put hi (by simp [*]) trivial
  · exact hs

theorem Safe.locate (hs : w.Safe top) (hi : Inside top cur) {name : String} (hname : name ≠ "..")
    (h : w.tree.locate links cur [name] = some place) : Inside top place :=
  locate_inside hs.confined links hi (fits_of_names w.tree top cur (by simpa using hname.symm)) h

theorem Safe.makeDirs (links : Nat) (hs : w.Safe top) (hi : Inside top cur) {comps : List String}
    (hc : ".." ∉ comps) : (w.makeDirs links cur comps).1.Safe top ∧
      ∀ place, (w.makeDirs links cur comps).2 = some place → Inside top place := by
  induction comps generalizing w cur with
  | nil => exact ⟨hs, fun place h => by cases h; exact hi⟩
  | cons name rest ih =>
    rw [List.mem_cons, not_or] at hc
    rw [World.makeDirs]
    split
    · exact ⟨hs, by simp⟩
    · rename_i place hp
      have hplace : Inside top place := hs.locate hi (Ne.symm hc.1) hp
      split
      · exact ih hs hplace hc.2
      · rename_i hnone
        split
        · exact ih (hs.put hplace (by simp [hnone]) trivial) hplace hc.2
        · exact ⟨hs, by simp⟩
      · exact ⟨hs, by simp⟩

theorem Safe.createFile (hs : w.Safe top) (hi : Inside top cur) {name : String}
    (hname : name ≠ "..") : (w.createFile links cur name).Safe top := by
  rw [World.createFile]
  split
  · exact hs
  · rename_i place hp
    have hplace : Inside top place := hs.locate hi hname hp
    split
    · rename_i hnone
      exact hs.put hplace (by simp [hnone]) hplace
    · rename_i inode hfile
      exact ⟨hs.confined,
        List.forall_mem_cons.mpr ⟨hs.confined.kept place _ hplace hfile, hs.touched⟩⟩
    · exact hs

theorem Safe.unlink (hs : w.Safe top) (hi : Inside top place) : (w.unlink place).Safe top := by
  rw [World.unlink]
  split
  · exact hs
  · exact hs
  · rename_i node hdir hn
    have hne : w.tree place ≠ some .dir := fun h => hdir (Option.some.inj (hn.symm.trans h))
    exact ⟨hs.confined.update hne (by simp), List.forall_mem_cons.mpr ⟨hi, hs.touched⟩⟩

theorem Safe.symlink (hs : w.Safe top) (hi : Inside top place) {absolute : Bool}
    {target : List String} (hk : w.tree.Kept top place (.link absolute target)) :
    (w.symlink place absolute target).Safe top := by
  rw [World.symlink]
  split
  · exact hs.put hi (by simp [*]) hk
  · exact hs

theorem Safe.entry (hs : w.Safe top) {target : List String}
    (ht : w.tree.fits top top target.dropLast = true) {node : Node}
    (h : w.entry links top target = some node) :
    ∃ place, Inside top place ∧ w.tree place = some node := by
  rw [World.entry] at h
  split at h
  · rename_i name dir _ hd
    have hi : Inside top dir := locate_inside hs.confined links (List.suffix_refl top) ht hd
    split at h
    · cases h
    · exact ⟨name :: dir, hi.cons name, h⟩
  · cases h

theorem linked_eq {target : List String} {node : Node}
    (h : w.linked links top place target = some node) :
    w.tree place = none ∧ w.entry links top target = some node := by
  rw [World.linked] at h
  split at h
  · exact ⟨‹_›, (Option.filter_eq_some_iff.mp h).1⟩
  · cases h

theorem Safe.hardLink (hs : w.Safe top) (hi : Inside top place) {target : List String}
    (hk : ∀ node, w.linked links top place target = some node → w.tree.Kept top place node) :
    (w.hardLink links top place target).Safe top := by
  rw [World.hardLink]
  split
  · exact hs
  · rename_i node hn
    exact hs.put hi (by simp [(linked_eq hn).1]) (hk node hn)

namespace Recorded

variable {w' w'' : World}

theorem refl (w : World) : w.Recorded w := ⟨fun _ h => h, fun _ _ => rfl⟩

theorem trans (h : w.Recorded w') (h' : w'.Recorded w'') : w.Recorded w'' :=
  ⟨fun place hp => h'.touched place (h.touched place hp), fun place hp =>
    (h'.tree place hp).trans (h.tree place (fun hw => hp (h'.touched place hw)))⟩

theorem update (w : World) (place : Place) (entry : Option Node) :
    w.Recorded ⟨Function.update w.tree place entry, place :: w.touched⟩ := by
  refine ⟨fun _ h => List.mem_cons_of_mem _ h, fun q hq => ?_⟩
  rw [List.mem_cons, not_or] at hq
  exact Function.update_of_ne hq.1 _ _

theorem makeDir (w : World) (place : Place) : w.Recorded (w.makeDir place) := by
  rw [World.makeDir]
  split
  · exact update w place _
  · exact refl w

theorem makeDirs (links : Nat) (w : World) (cur : Place) (comps : List String) :
    w.Recorded (w.makeDirs links cur comps).1 := by
  induction comps generalizing w cur with
  | nil => exact refl w
  | cons name rest ih =>
    rw [World.makeDirs]
    split
    · exact refl w
    · split
      · exact ih w _
      · split
        · exact (update w _ _).trans (ih _ _)
        · exact refl w
      · exact refl w

theorem createFile (links : Nat) (w : World) (cur : Place) (name : String) :
    w.Recorded (w.createFile links cur name) := by
  rw [World.createFile]
  split
  · exact refl w
  · split
    · exact update w _ _
    · exact ⟨fun _ h => List.mem_cons_of_mem _ h, fun _ _ => rfl⟩
    · exact refl w

theorem unlink (w : World) (place : Place) : w.Recorded (w.unlink place) := by
  rw [World.unlink]
  split
  · exact refl w
  · exact refl w
  · exact update w place _

theorem symlink (w : World) (place : Place) (absolute : Bool) (target : List String) :
    w.Recorded (w.symlink place absolute target) := by
  rw [World.symlink]
  split
  · exact update w place _
  · exact refl w

theorem hardLink (links : Nat) (w : World) (top place : Place) (target : List String) :
    w.Recorded (w.hardLink links top place target) := by
  rw [World.hardLink]
  split
  · exact refl w
  · exact update w place _

end Recorded

end World

end VibeDPN
