import VibeDPN.ConfigEdit.Devices

namespace VibeDPN

open Text Keyed

namespace UpstreamsConfig

end UpstreamsConfig

namespace Fields

end Fields

def wgEntry (e : String × WgUplink) : Option (WgName × WgUplink) :=
  (validateWgName e.1).map fun name => (name, e.2)

theorem validateWg_eq (wg : Dict String WgUplink) :
    validateWg wg = (wg.entries.mapM wgEntry).map Dict.empty.update := rfl

theorem wgEntry_some {e : String × WgUplink} {b : WgName × WgUplink} (h : wgEntry e = some b) :
    validateWgName e.1 = some b.1 ∧ e.2 = b.2 := by
  rw [wgEntry, Option.map_eq_some_iff] at h
  obtain ⟨name, hn, rfl⟩ := h
  exact ⟨hn, rfl⟩

theorem Document.Parts.validate_wgKeys {d : Document} {c : Fields} (h : d.Parts c) :
    validateWg d.wgKeys = some c.upstreams.wg := by
  have hu := h.upstreams
  rw [UpstreamsNode.validate, Option.map_eq_some_iff] at hu
  obtain ⟨wg, hw, hc⟩ := hu
  rw [← hc]
  cases hd : d.upstreams with
  | none => simpa [Document.wgKeys, hd] using hw
  | some u => simpa [Document.wgKeys, hd] using hw

namespace Edit

variable {path : String} {d : Document} {c : Config}

theorem mem_names {l : List (String × WgUplink)} {b : List (WgName × WgUplink)}
    (hl : l.mapM wgEntry = some b) (w : WgName) :
    w ∈ b.map Prod.fst ↔ some w ∈ l.map (fun e => validateWgName e.1) := by
  simp only [List.mem_map]
  constructor
  · rintro ⟨x, hx, rfl⟩
    obtain ⟨e, he, hd⟩ := (mem_of_mapM hl).mp hx
    exact ⟨e, he, (wgEntry_some hd).1⟩
  · rintro ⟨e, he, hw⟩
    refine ⟨(w, e.2), (mem_of_mapM hl).mpr ⟨e, he, ?_⟩, rfl⟩
    rw [wgEntry, hw, Option.map_some]

theorem mem_wg_keys {keys : Dict String WgUplink} {wg : Dict WgName WgUplink}
    (hw : validateWg keys = some wg) (w : WgName) :
    w ∈ wg.keys ↔ ∃ key ∈ keys.keys, validateWgName key = some w := by
  rw [validateWg_eq, Option.map_eq_some_iff] at hw
  obtain ⟨b, hb, rfl⟩ := hw
  have hk : ∀ (l : List (WgName × WgUplink)) (d : Dict WgName WgUplink),
      w ∈ (d.update l).keys ↔ w ∈ d.keys ∨ w ∈ l.map Prod.fst := by
    intro l
    induction l with
    | nil => simp [Dict.update]
    | cons e l ih =>
      intro d
      rw [Dict.update_cons, ih, Dict.mem_keys_set, List.map_cons, List.mem_cons]
      tauto
  rw [hk, mem_names hb]
  simp [Dict.empty, Dict.keys]

end Edit

def ruleDocument (domain : String) : Document where
  role := .home
  network := some sampleNetwork
  routing := some { defaultUpstream := "tor", domains := some [{ domain := domain, via := .tor }] }
  upstreams := some { tor := { enabled := true } }

def siteRule : DomainRule := { domain := siteName, via := .tor }

def siteConfig : Config where
  role := .home
  network := some sampleNetwork
  routing := some { defaultUpstream := torKey, domains := [siteRule] }
  upstreams := { tor := { enabled := true } }
  valid := by decide

end VibeDPN
