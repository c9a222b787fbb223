import VibeDPN.ConfigEdit.Updates

namespace VibeDPN

open Text Inet Keyed

namespace Document

def wgKeys (d : Document) : Dict String WgUplink := (d.upstreams.bind UpstreamsNode.wg).getD Dict.empty

def laterWg (d : Document) (name : String) : List (String × WgUplink) :=
  (d.wgKeys.entries.dropWhile (fun e => e.1 ≠ name)).tail

def SpellsWg (d : Document) (name : String) : Prop :=
  ∀ key ∈ d.wgKeys.keys, validateWgName key = validateWgName name → key = name

end Document

-- a key the editor finds is the only one of its name, or the others leave the exit as wanted
def Edit.Reads (d : Document) (c : Config) : Edit → Prop
  | .removeDomainRule domain => normalizeDomain domain ≠ none
  | .setWgUplink name enabled => ∀ w, validateWgName name = some w →
      some w ∈ (d.laterWg name).map (fun e => validateWgName e.1) →
        c.upstreams.wg.get? w = some { enabled := enabled }
  | .removeWgUplink name => name ∈ d.wgKeys.keys → d.SpellsWg name ∨
      Edit.update c (.removeWgUplink name) = none ∧
        ∀ w wg v, validateWgName name = some w → validateWg (d.wgKeys.erase name) = some wg →
          wg.get? w = some v → v.enabled = false
  | _ => True

namespace Edit

variable {path : String} {d d' : Document} {c c' : Config} {op : Edit}

section Sections

variable {α β : Type} {decode : α → Option β} {items : List α} {old : List β}
  {p : α → Bool} {q : β → Bool} (put : List β → Fields)

def Found (decode : α → Option β) (p : α → Bool) (q : β → Bool) (items : List α) : Prop :=
  ∀ a ∈ items, ∀ b, decode a = some b → q b = true → p a = true

theorem found_iff (hsound : ∀ a ∈ items, ∀ b, decode a = some b → p a = true → q b = true)
    (hf : Found decode p q items) : ∀ a ∈ items, ∀ b, decode a = some b → p a = q b := by
  intro a ha b hb
  rw [Bool.eq_iff_iff]
  exact ⟨hsound a ha b hb, hf a ha b hb⟩

end Sections

section Routing

variable {α β : Type} {decode : α → Option β} {items : List α} {old : List β}
  {p : α → Bool} {q : β → Bool} {r : RoutingNode} (place : List α → RoutingNode)
  (put : List β → RoutingConfig)

end Routing

section TextKey

variable {α β κ : Type} [DecidableEq κ] {decode : α → Option β} {text : α → String}
  {normal : String → Option κ} {key : β → κ} {items : List α} {old : List β} {s : String}
  {r : RoutingNode} (place : List α → RoutingNode) (put : List β → RoutingConfig)

end TextKey

end Edit

end VibeDPN
