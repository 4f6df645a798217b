import PagedSelect.Proofs.Identifier
import PagedSelect.Text.Blank
/-!
# Pieces of a text

A text that was joined with commas is cut into the pieces that it was joined from, and a text without
spaces is what trimming leaves of it.  Identifiers hold neither commas nor spaces.
-/

namespace PagedSelect.Text

/-! ## Cutting at commas -/

theorem commaPieces_intercalate {ss : List String} (hne : ss ≠ []) (h : ∀ s ∈ ss, ',' ∉ s.toList) :
    commaPieces (",".intercalate ss) = ss := by
  have hpieces : ∀ cs ∈ ss.map String.toList, ',' ∉ cs := by
    simpa using h
  have hcut : (",".intercalate ss).toList.splitOn ',' = ss.map String.toList := by
    rw [String.toList_intercalate]
    exact List.splitOn_intercalate ',' hpieces (by simpa using hne)
  rw [commaPieces, hcut, List.map_map]
  simp

/-! ## Trimming -/

theorem trimEnds_of_none {p : Char → Bool} {cs : List Char} (h : ∀ c ∈ cs, p c = false) : trimEnds p cs = cs := by
  have drop {ds : List Char} (hd : ∀ c ∈ ds, p c = false) : ds.dropWhile p = ds := by
    cases ds with
    | nil => rfl
    | cons c r => simp [hd c (by simp)]
  rw [trimEnds, drop h, drop (by simpa using h), List.reverse_reverse]

theorem trim_of_none {s : String} (h : ∀ c ∈ s.toList, isSpace c = false) : trim s = s := by
  rw [trim, trimEnds_of_none h, String.ofList_toList]

theorem dropWhile_padded {p : Char → Bool} {pre w : List Char} (hpre : ∀ c ∈ pre, p c = true)
    (hw : ∀ c ∈ w.head?, p c = false) : (pre ++ w).dropWhile p = w := by
  rw [List.dropWhile_append_of_pos hpre]
  cases w with
  | nil => rfl
  | cons c r => exact List.dropWhile_cons_of_neg (by simp [hw c rfl])

/-- Trimming takes off the spaces around a text that has none at its ends. -/
theorem trimEnds_padded {pre w post : String} (hpre : isVoid pre = true) (hpost : isVoid post = true)
    (hne : w ≠ "") (hhead : ∀ c ∈ w.toList.head?, isSpace c = false)
    (hlast : ∀ c ∈ w.toList.getLast?, isSpace c = false) :
    trimEnds isSpace (pre ++ w ++ post).toList = w.toList := by
  have hfront : ∀ c ∈ (w.toList ++ post.toList).head?, isSpace c = false := by
    obtain ⟨c, r, hw⟩ := List.exists_cons_of_ne_nil (mt String.toList_eq_nil_iff.1 hne)
    rw [hw] at hhead ⊢
    exact hhead
  rw [String.toList_append, String.toList_append, List.append_assoc, trimEnds,
    dropWhile_padded (List.all_eq_true.1 hpre) hfront, List.reverse_append, dropWhile_padded, List.reverse_reverse]
  · simpa using List.all_eq_true.1 hpost
  · simpa using hlast

/-- A text is what trimming leaves of it, between what trimming takes off. -/
theorem exists_padding (p : Char → Bool) (cs : List Char) : ∃ pre post, cs = pre ++ trimEnds p cs ++ post ∧
    (∀ c ∈ pre, p c = true) ∧ ∀ c ∈ post, p c = true := by
  have htail : (cs.dropWhile p).reverse
      = (cs.dropWhile p).reverse.takeWhile p ++ (cs.dropWhile p).reverse.dropWhile p :=
    List.takeWhile_append_dropWhile.symm
  refine ⟨cs.takeWhile p, ((cs.dropWhile p).reverse.takeWhile p).reverse, ?_, fun c hc => ?_, fun c hc => ?_⟩
  · rw [trimEnds, List.append_assoc, ← List.reverse_append, ← htail, List.reverse_reverse,
      List.takeWhile_append_dropWhile]
  · exact List.all_eq_true.1 List.all_takeWhile c hc
  · exact List.all_eq_true.1 List.all_takeWhile c (List.mem_reverse.1 hc)

theorem trimEnds_of_all {p : Char → Bool} {cs : List Char} (h : ∀ c ∈ cs, p c = true) : trimEnds p cs = [] := by
  have hnone : cs.dropWhile p = [] := by simpa using dropWhile_padded (w := []) h nofun
  rw [trimEnds, hnone]
  rfl

/-! ## Characters of names -/

theorem codes_of_isDigit {c : Char} (h : c.isDigit = true) : 0x30 ≤ c.toNat ∧ c.toNat ≤ 0x39 := by
  simpa [Char.isDigit, UInt32.le_iff_toNat_le] using h

theorem codes_of_isPart {c : Char} (h : Identifier.isPart c = true) :
    (0x30 ≤ c.toNat ∧ c.toNat ≤ 0x39) ∨ (0x41 ≤ c.toNat ∧ c.toNat ≤ 0x5A) ∨ c.toNat = 0x5F ∨
      (0x61 ≤ c.toNat ∧ c.toNat ≤ 0x7A) := by
  change ((c.isUpper || c.isLower || c == '_') || c.isDigit) = true at h
  simp only [Bool.or_eq_true, beq_iff_eq] at h
  rcases h with ((h | h) | rfl) | h
  · obtain ⟨hl, hr⟩ : 'A'.val ≤ c.val ∧ c.val ≤ 'Z'.val := of_decide_eq_true h
    exact .inr (.inl ⟨UInt32.le_iff_toNat_le.1 hl, UInt32.le_iff_toNat_le.1 hr⟩)
  · obtain ⟨hl, hr⟩ := Bool.and_eq_true_iff.1 h
    exact .inr (.inr (.inr ⟨UInt32.le_iff_toNat_le.1 (of_decide_eq_true hl),
      UInt32.le_iff_toNat_le.1 (of_decide_eq_true hr)⟩))
  · exact .inr (.inr (.inl rfl))
  · exact .inl (codes_of_isDigit h)

/-- The characters that ASCII prints are no spaces, apart from the first. -/
theorem isSpace_of_codes {c : Char} (hl : 0x21 ≤ c.toNat) (hr : c.toNat ≤ 0x7E) : isSpace c = false := by
  simp only [isSpace, isBlank, Bool.or_eq_false_iff, Bool.and_eq_false_iff, decide_eq_false_iff_not,
    beq_eq_false_iff_ne]
  omega

theorem isSpace_of_isDotted {cs : List Char} (h : Identifier.isDotted cs = true) :
    ∀ c ∈ cs, isSpace c = false := by
  intro c hc
  rcases Identifier.isPart_of_isDotted h c hc with hp | rfl
  · have hcodes := codes_of_isPart hp
    exact isSpace_of_codes (by omega) (by omega)
  · decide

theorem not_mem_of_isDotted {cs : List Char} (h : Identifier.isDotted cs = true) {c : Char}
    (hpart : Identifier.isPart c = false) (hdot : c ≠ '.') : c ∉ cs := by
  intro hc
  rcases Identifier.isPart_of_isDotted h c hc with hp | hp
  · exact absurd hp (by simp [hpart])
  · exact hdot hp

end PagedSelect.Text
