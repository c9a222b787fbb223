import VibeDPN.ConfigEdit.Editors

namespace VibeDPN

open Text Inet

theorem stripBy_eq_self {p : Char → Bool} {s : String} (h : ∀ c ∈ s.toList, p c = false) :
    stripBy p s = s := by
  rw [← String.toList_inj, toList_stripBy]
  exact stripList_eq_self (fun hn => h _ (List.head_mem hn)) (fun hn => h _ (List.getLast_mem hn))

theorem isBlank_isSpace {c : Char} (h : isSpace c = false) : isBlank c = false := by
  simp [isBlank, h]

theorem trim_eq_self {s : String} (h : ∀ c ∈ s.toList, isSpace c = false) : trim s = s :=
  stripBy_eq_self fun c hc => isBlank_isSpace (h c hc)

theorem strip_eq_self {s : String} (h : ∀ c ∈ s.toList, isSpace c = false) : strip s = s :=
  stripBy_eq_self h

theorem isSpace_graphic {c : Char} (h : 33 ≤ c.toNat) (h' : c.toNat ≤ 126) : isSpace c = false := by
  simp only [isSpace, Bool.or_eq_false_iff, Bool.and_eq_false_iff, decide_eq_false_iff_not]
  omega

theorem label_graphic {c : Char} (h : isLabelChar c = true ∨ c = '.') : isSpace c = false := by
  simp only [isLabelChar, Bool.or_eq_true, isLower_iff, isNumber_iff, decide_eq_true_eq] at h
  rcases h with ((h | h) | rfl) | rfl
  · exact isSpace_graphic (by omega) (by omega)
  · exact isSpace_graphic (by omega) (by omega)
  · decide
  · decide

theorem lowerChar_space {c : Char} (h : isSpace (lowerChar c) = false) : isSpace c = false := by
  by_contra hs
  rw [Bool.not_eq_false] at hs
  have hn : c ≠ '\u212a' ∧ (c.toNat < 65 ∨ 90 < c.toNat) := by
    constructor
    · rintro rfl
      exact absurd hs (by decide)
    · simp only [isSpace, Bool.or_eq_true, Bool.and_eq_true, decide_eq_true_eq] at hs
      omega
  rw [lowerChar_of_not_upper hn.1 hn.2, hs] at h
  cases h

theorem lower_spaceless {s : String} (h : ∀ c ∈ (lower s).toList, isSpace c = false) :
    ∀ c ∈ s.toList, isSpace c = false := by
  intro c hc
  refine lowerChar_space (h _ ?_)
  rw [toList_lower]
  exact List.mem_map_of_mem hc

theorem domain_spaceless (d : DomainName) : ∀ c ∈ d.val.toList, isSpace c = false :=
  fun c hc => label_graphic (isDomain_chars d.property c hc)

theorem validateDomain_val (d : DomainName) : validateDomain d.val = some d := by
  rw [validateDomain, trim_eq_self (domain_spaceless d), normalizeDomain_val]

theorem url_spaceless {s scheme : String} (hp : startsWith s scheme = true)
    (hr : isUrlRest (s.toList.drop scheme.toList.length) = true)
    (hs : scheme.toList.all (fun c => !isSpace c) = true) : ∀ c ∈ s.toList, isSpace c = false := by
  obtain ⟨t, rfl⟩ := startsWith_iff.mp hp
  rw [String.toList_append, List.drop_left] at hr
  simp only [isUrlRest, Bool.and_eq_true, List.all_eq_true, Bool.not_eq_true'] at hr
  intro c hc
  rw [String.toList_append, List.mem_append] at hc
  rcases hc with hc | hc
  · simpa using List.all_eq_true.mp hs c hc
  · exact hr.2 c hc

theorem validateUrl_val (u : ListUrl) : validateUrl u.val = some u := by
  have hs : ∀ c ∈ u.val.toList, isSpace c = false := by
    have h := u.property
    simp only [isListUrl, Bool.or_eq_true, Bool.and_eq_true] at h
    rcases h with ⟨hp, hr⟩ | ⟨hp, hr⟩
    · exact url_spaceless hp hr (by decide)
    · exact url_spaceless hp hr (by decide)
  rw [validateUrl, trim_eq_self hs, check_val]

theorem validateWgName_val (n : WgName) : validateWgName n.val = some n := by
  have hs : ∀ c ∈ n.val.toList, isSpace c = false := by
    intro c hc
    have h := n.property
    simp only [isWgName, Bool.and_eq_true, List.all_eq_true] at h
    exact label_graphic (.inl (h.1.1.2 c hc))
  rw [validateWgName, trim_eq_self hs, check_val]

theorem isSpace_digit {c : Char} (h : isDigit c = true) : isSpace c = false :=
  label_graphic (.inl (by
    simp only [isLabelChar, Bool.or_eq_true]
    exact .inl (.inr h)))

theorem network_spaceless (n : IPv4Network) : ∀ c ∈ n.str.toList, isSpace c = false := by
  intro c hc
  simp only [IPv4Network.str, String.toList_append, List.mem_append] at hc
  rcases hc with (hc | hc) | hc
  · rcases mem_str hc with h | rfl
    · exact isSpace_digit h
    · decide
  · have : c = '/' := by simpa using hc
    subst this
    decide
  · exact isSpace_digit ((parsePrefix_str ⟨n.prefixlen, by have := n.prefix_le; omega⟩).2 c hc)

theorem validateNetwork_str (n : IPv4Network) : validateNetwork n.str = some n := by
  rw [validateNetwork, strip_eq_self (network_spaceless n), parseNetwork_str]

theorem isMac_chars {s : String} (h : isMac s = true) :
    ∀ c ∈ s.toList, c = ':' ∨ isNumber c = true ∨ 'a' ≤ c ∧ c ≤ 'f' := by
  intro c hc
  simp only [isMac, Bool.and_eq_true, List.all_eq_true] at h
  rcases mem_splitOn_of_mem (x := ':') hc with rfl | ⟨p, hp, hcp⟩
  · exact .inl rfl
  · have hl := h.2 p hp
    simp only [isHexPair, Bool.and_eq_true, List.all_eq_true, Bool.or_eq_true,
      decide_eq_true_eq] at hl
    exact .inr (hl.2 c hcp)

theorem mac_char {c : Char} (h : c = ':' ∨ isNumber c = true ∨ 'a' ≤ c ∧ c ≤ 'f') :
    c.toNat ≠ 45 ∧ (48 ≤ c.toNat ∧ c.toNat ≤ 58 ∨ 97 ≤ c.toNat ∧ c.toNat ≤ 102) := by
  rcases h with rfl | h | ⟨h1, h2⟩
  · decide
  · rw [isNumber_iff] at h
    omega
  · have h1' : 97 ≤ c.toNat := h1
    have h2' : c.toNat ≤ 102 := h2
    omega

theorem mac_graphic {c : Char} (h : c = ':' ∨ isNumber c = true ∨ 'a' ≤ c ∧ c ≤ 'f') :
    isSpace c = false ∧ lowerChar c = c ∧ c ≠ '-' := by
  obtain ⟨hd, hr⟩ := mac_char h
  refine ⟨isSpace_graphic (by omega) (by omega), lowerChar_of_not_upper ?_ (by omega), ?_⟩
  · rintro rfl
    revert hr
    decide
  · rintro rfl
    exact hd rfl

theorem replaceChar_spaceless {s : String}
    (h : ∀ c ∈ (replaceChar '-' ':' s).toList, isSpace c = false) :
    ∀ c ∈ s.toList, isSpace c = false := by
  intro c hc
  by_cases hd : c = '-'
  · subst hd
    decide
  · refine h c ?_
    rw [replaceChar, String.toList_ofList]
    exact List.mem_map.mpr ⟨c, hc, by simp [hd]⟩

theorem normalizeMac_eq_some {text : String} {m : Mac} :
    normalizeMac text = some m ↔ replaceChar '-' ':' (lower text) = m.val :=
  check_eq_some

theorem normalizeMac_spaceless {text : String} {m : Mac} (h : normalizeMac text = some m) :
    ∀ c ∈ text.toList, isSpace c = false := by
  refine lower_spaceless (replaceChar_spaceless ?_)
  rw [normalizeMac_eq_some.mp h]
  exact fun c hc => (mac_graphic (isMac_chars m.property c hc)).1

theorem validateMac_of_normalizeMac {text : String} {m : Mac} (h : normalizeMac text = some m) :
    validateMac text = some m := by
  rw [validateMac, trim_eq_self (normalizeMac_spaceless h), h]

theorem validateMac_val (m : Mac) : validateMac m.val = some m := by
  refine validateMac_of_normalizeMac (normalizeMac_eq_some.mpr ?_)
  have hc : ∀ c ∈ m.val.toList, isSpace c = false ∧ lowerChar c = c ∧ c ≠ '-' :=
    fun c hc => mac_graphic (isMac_chars m.property c hc)
  rw [lower_eq_self fun c h => (hc c h).2.1, replaceChar, ← String.toList_inj,
    String.toList_ofList]
  exact (List.map_congr_left fun c h => by simp [(hc c h).2.2]).trans (List.map_id _)

theorem upperChar_upper {c : Char} (h : 65 ≤ c.toNat) (h' : c.toNat ≤ 90) : upperChar c = [c] := by
  have hne : ∀ d : Char, 90 < d.toNat → c ≠ d := by
    rintro d hd rfl
    omega
  have hu : c.toUpper = c := by
    rw [Char.toUpper, dif_neg]
    rintro ⟨h1, _⟩
    have h1' : 97 ≤ c.toNat := h1
    omega
  simp only [upperChar, hne '\u00df' (by decide), hne '\u0131' (by decide),
    hne '\u017f' (by decide), hne '\ufb00' (by decide), hne '\ufb01' (by decide),
    hne '\ufb02' (by decide), hne '\ufb05' (by decide), hne '\ufb06' (by decide), or_self,
    if_false, hu]

theorem normalizeCountry_val (c : Country) : normalizeCountry c.val = some c := by
  have hc : ∀ x ∈ c.val.toList, 65 ≤ x.toNat ∧ x.toNat ≤ 90 := by
    intro x hx
    have h := c.property
    simp only [isCountry, Bool.and_eq_true, List.all_eq_true, decide_eq_true_eq] at h
    exact h.2 x hx
  have hs : strip c.val = c.val := strip_eq_self fun x hx =>
    isSpace_graphic (by have := hc x hx; omega) (by have := hc x hx; omega)
  have hu : upper c.val = c.val := by
    rw [← String.toList_inj, upper, String.toList_ofList]
    have hm : c.val.toList.flatMap upperChar = c.val.toList.flatMap (fun x => [x]) :=
      List.flatMap_congr fun x hx => upperChar_upper (hc x hx).1 (hc x hx).2
    rw [hm, List.flatMap_singleton']
  rw [normalizeCountry, hs, hu, check_val]

theorem ipText_address (a : IPv4Address) : (IpNode.text a.str).address = some a := parseAddress_str a

end VibeDPN
