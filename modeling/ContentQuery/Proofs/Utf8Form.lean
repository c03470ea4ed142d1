import ContentQuery.Text.Utf8

/-!
# ContentQuery.Proofs.Utf8Form

Octets and texts. Reading UTF-8 accepts exactly what writing it produces: octets are the form of at
most one text, and those that are the form of none are refused.
-/

namespace ContentQuery.Utf8

variable {c : CodePoint} {rest bytes : List UInt8} {s : Text}

/-! ## Octets as numbers -/

/-- An octet continues a character exactly if it has the mark for that, and gives the six bits below
it. -/
theorem continuation?_eq_some_iff {b : UInt8} {bits : Nat} :
    continuation? b = some bits ↔ bits < 64 ∧ b.toNat = 0x80 + bits := by
  have hrange : (0x80 ≤ b ∧ b ≤ 0xBF) ↔ 0x80 ≤ b.toNat ∧ b.toNat ≤ 0xBF := Iff.rfl
  rw [continuation?]
  simp only [hrange]
  split
  · rw [Option.some.injEq]
    omega
  · simp only [reduceCtorEq, false_iff]
    omega

/-- A number is a character exactly if it is written in no more octets than it needs and is no half
of a character. -/
theorem scalar?_eq_some_iff {least n : Nat} :
    scalar? least n = some c ↔ c.val = n ∧ least ≤ n ∧ c.isSurrogate = false := by
  have hsurrogate (n : Nat) (hn : n < 0x110000) :
      CodePoint.isSurrogate ⟨n, hn⟩ = false ↔ ¬ (0xD800 ≤ n ∧ n ≤ 0xDFFF) := by
    rw [← Bool.not_eq_true, CodePoint.isSurrogate, Bool.and_eq_true, decide_eq_true_eq,
      decide_eq_true_eq]
  unfold scalar?
  split
  · next hn =>
      split
      · next hgood =>
          rw [Option.some.injEq, Fin.ext_iff]
          constructor
          · rintro rfl
            exact ⟨rfl, hgood.1, (hsurrogate _ hn).mpr hgood.2⟩
          · exact fun h => h.1.symm
      · next hbad =>
          simp only [reduceCtorEq, false_iff]
          rintro ⟨rfl, hleast, hplain⟩
          exact hbad ⟨hleast, (hsurrogate _ hn).mp hplain⟩
  · next hn =>
      simp only [reduceCtorEq, false_iff]
      rintro ⟨rfl, -⟩
      exact hn c.isLt

/-! ## Forms of a code point -/

/-- The octets that are the form of the code point with a number, told by their own numbers. -/
inductive Form (n : Nat) : List UInt8 → Prop
  | one {a : UInt8} : n < 0x80 → a.toNat = n → Form n [a]
  | two {a b : UInt8} : 0x80 ≤ n → n < 0x800 → a.toNat = 0xC0 + n / 64 →
      b.toNat = 0x80 + n % 64 → Form n [a, b]
  | three {a b c : UInt8} : 0x800 ≤ n → n < 0x10000 → a.toNat = 0xE0 + n / 4096 →
      b.toNat = 0x80 + n / 64 % 64 → c.toNat = 0x80 + n % 64 → Form n [a, b, c]
  | four {a b c d : UInt8} : 0x10000 ≤ n → a.toNat = 0xF0 + n / 262144 →
      b.toNat = 0x80 + n / 4096 % 64 → c.toNat = 0x80 + n / 64 % 64 → d.toNat = 0x80 + n % 64 →
      Form n [a, b, c, d]

theorem toUInt8_toNat (b : UInt8) : b.toNat.toUInt8 = b := UInt8.ofNat_toNat

theorem toNat_toUInt8 {n : Nat} (h : n < 256) : n.toUInt8.toNat = n := by
  have hmod : n.toUInt8.toNat = n % 256 := UInt8.toNat_ofNat'
  rw [hmod, Nat.mod_eq_of_lt h]

/-- A code point has one form. -/
theorem Form.eq_octets (h : Form c.val bytes) : bytes = octets c := by
  unfold octets
  cases h with
  | one hlast ha =>
      rw [if_pos hlast, ← ha, toUInt8_toNat]
  | two hfirst hlast ha hb =>
      simp only [if_neg (Nat.not_lt.mpr hfirst), if_pos hlast, ← ha, ← hb, toUInt8_toNat]
  | three hfirst hlast ha hb hc =>
      have hsecond : ¬ c.val < 0x800 := Nat.not_lt.mpr hfirst
      have hone : ¬ c.val < 0x80 := by omega
      simp only [if_neg hone, if_neg hsecond, if_pos hlast, ← ha, ← hb, ← hc, toUInt8_toNat]
  | four hfirst ha hb hc hd =>
      have hthird : ¬ c.val < 0x10000 := Nat.not_lt.mpr hfirst
      have hsecond : ¬ c.val < 0x800 := by omega
      have hone : ¬ c.val < 0x80 := by omega
      simp only [if_neg hone, if_neg hsecond, if_neg hthird, ← ha, ← hb, ← hc, ← hd, toUInt8_toNat]

/-- The octets of a code point are a form of it. -/
theorem form_octets (c : CodePoint) : Form c.val (octets c) := by
  have hbound := c.isLt
  unfold octets
  simp only
  split
  · exact .one ‹_› (toNat_toUInt8 (by omega))
  split
  · exact .two (by omega) ‹_› (toNat_toUInt8 (by omega)) (toNat_toUInt8 (by omega))
  split
  · exact .three (by omega) ‹_› (toNat_toUInt8 (by omega)) (toNat_toUInt8 (by omega))
      (toNat_toUInt8 (by omega))
  · exact .four (by omega) (toNat_toUInt8 (by omega)) (toNat_toUInt8 (by omega))
      (toNat_toUInt8 (by omega)) (toNat_toUInt8 (by omega))

/-! ## One code point -/

/-- A character before the octets that follow it. -/
theorem map_scalar?_eq_some_iff {least n : Nat} {later : List UInt8} :
    (scalar? least n).map (·, later) = some (c, rest) ↔
      (c.val = n ∧ least ≤ n ∧ c.isSurrogate = false) ∧ later = rest := by
  rw [Option.map_eq_some_iff, ← scalar?_eq_some_iff]
  constructor
  · rintro ⟨d, hd, heq⟩
    obtain ⟨rfl, rfl⟩ := Prod.mk.inj heq
    exact ⟨hd, rfl⟩
  · rintro ⟨hc, rfl⟩
    exact ⟨c, hc, rfl⟩

/-- What is decoded first is no half of a character, and its form is at the front of the octets. -/
theorem form_of_next? (h : next? bytes = some (c, rest)) :
    c.isSurrogate = false ∧ ∃ form, Form c.val form ∧ bytes = form ++ rest := by
  unfold next? at h
  split at h
  · contradiction
  · next a tail =>
      split at h
      · next hlead =>
          obtain ⟨⟨hval, -, hplain⟩, rfl⟩ := map_scalar?_eq_some_iff.mp h
          have hlead : a.toNat < 0x80 := hlead
          exact ⟨hplain, [a], .one (by omega) hval.symm, rfl⟩
      split at h
      · next hlead =>
          have hlead : 0xC0 ≤ a.toNat ∧ a.toNat ≤ 0xDF := hlead
          split at h
          · next b tail =>
              simp only [Option.bind_eq_bind, Option.bind_eq_some_iff] at h
              obtain ⟨x, hx, h⟩ := h
              obtain ⟨hx, hb⟩ := continuation?_eq_some_iff.mp hx
              obtain ⟨⟨hval, hleast, hplain⟩, rfl⟩ := map_scalar?_eq_some_iff.mp h
              exact ⟨hplain, [a, b], .two (by omega) (by omega) (by omega) (by omega), rfl⟩
          · contradiction
      split at h
      · next hlead =>
          have hlead : 0xE0 ≤ a.toNat ∧ a.toNat ≤ 0xEF := hlead
          split at h
          · next b d tail =>
              simp only [Option.bind_eq_bind, Option.bind_eq_some_iff] at h
              obtain ⟨x, hx, y, hy, h⟩ := h
              obtain ⟨hx, hb⟩ := continuation?_eq_some_iff.mp hx
              obtain ⟨hy, hd⟩ := continuation?_eq_some_iff.mp hy
              obtain ⟨⟨hval, hleast, hplain⟩, rfl⟩ := map_scalar?_eq_some_iff.mp h
              exact ⟨hplain, [a, b, d],
                .three (by omega) (by omega) (by omega) (by omega) (by omega), rfl⟩
          · contradiction
      split at h
      · next hlead =>
          have hlead : 0xF0 ≤ a.toNat ∧ a.toNat ≤ 0xF7 := hlead
          split at h
          · next b d e tail =>
              simp only [Option.bind_eq_bind, Option.bind_eq_some_iff] at h
              obtain ⟨x, hx, y, hy, z, hz, h⟩ := h
              obtain ⟨hx, hb⟩ := continuation?_eq_some_iff.mp hx
              obtain ⟨hy, hd⟩ := continuation?_eq_some_iff.mp hy
              obtain ⟨hz, he⟩ := continuation?_eq_some_iff.mp hz
              obtain ⟨⟨hval, hleast, hplain⟩, rfl⟩ := map_scalar?_eq_some_iff.mp h
              exact ⟨hplain, [a, b, d, e],
                .four (by omega) (by omega) (by omega) (by omega) (by omega), rfl⟩
          · contradiction
      · contradiction

/-- The form of a character at the front of the octets is decoded as this character. -/
theorem next?_of_form {form : List UInt8} (hplain : c.isSurrogate = false) (h : Form c.val form)
    (rest : List UInt8) : next? (form ++ rest) = some (c, rest) := by
  have hbound := c.isLt
  cases h with
  | @one a hlast ha =>
      have hlead : a < 0x80 := show a.toNat < 0x80 by omega
      rw [List.cons_append, List.nil_append, next?.eq_def]
      simp only [if_pos hlead, map_scalar?_eq_some_iff]
      exact ⟨⟨ha.symm, Nat.zero_le _, hplain⟩, trivial⟩
  | @two a b hfirst hlast ha hb =>
      have hone : ¬ a < 0x80 := show ¬ a.toNat < 0x80 by omega
      have hlead : 0xC0 ≤ a ∧ a ≤ 0xDF := show 0xC0 ≤ a.toNat ∧ a.toNat ≤ 0xDF by omega
      have hx := continuation?_eq_some_iff.mpr ⟨Nat.mod_lt c.val (by decide : 0 < 64), hb⟩
      rw [List.cons_append, List.cons_append, List.nil_append, next?, if_neg hone, if_pos hlead]
      rw [hx, Option.bind_eq_bind, Option.bind_some, map_scalar?_eq_some_iff]
      exact ⟨⟨by omega, by omega, hplain⟩, rfl⟩
  | @three a b d hfirst hlast ha hb hd =>
      have hone : ¬ a < 0x80 := show ¬ a.toNat < 0x80 by omega
      have htwo : ¬ (0xC0 ≤ a ∧ a ≤ 0xDF) := show ¬ (0xC0 ≤ a.toNat ∧ a.toNat ≤ 0xDF) by omega
      have hlead : 0xE0 ≤ a ∧ a ≤ 0xEF := show 0xE0 ≤ a.toNat ∧ a.toNat ≤ 0xEF by omega
      have hx := continuation?_eq_some_iff.mpr ⟨Nat.mod_lt _ (by decide : 0 < 64), hb⟩
      have hy := continuation?_eq_some_iff.mpr ⟨Nat.mod_lt c.val (by decide : 0 < 64), hd⟩
      rw [List.cons_append, List.cons_append, List.cons_append, List.nil_append, next?,
        if_neg hone, if_neg htwo, if_pos hlead]
      dsimp only
      rw [hx, hy, Option.bind_eq_bind, Option.bind_some, Option.bind_some,
        map_scalar?_eq_some_iff]
      exact ⟨⟨by omega, by omega, hplain⟩, rfl⟩
  | @four a b d e hfirst ha hb hd he =>
      have hone : ¬ a < 0x80 := show ¬ a.toNat < 0x80 by omega
      have htwo : ¬ (0xC0 ≤ a ∧ a ≤ 0xDF) := show ¬ (0xC0 ≤ a.toNat ∧ a.toNat ≤ 0xDF) by omega
      have hthree : ¬ (0xE0 ≤ a ∧ a ≤ 0xEF) := show ¬ (0xE0 ≤ a.toNat ∧ a.toNat ≤ 0xEF) by omega
      have hlead : 0xF0 ≤ a ∧ a ≤ 0xF7 := show 0xF0 ≤ a.toNat ∧ a.toNat ≤ 0xF7 by omega
      have hx := continuation?_eq_some_iff.mpr ⟨Nat.mod_lt _ (by decide : 0 < 64), hb⟩
      have hy := continuation?_eq_some_iff.mpr ⟨Nat.mod_lt _ (by decide : 0 < 64), hd⟩
      have hz := continuation?_eq_some_iff.mpr ⟨Nat.mod_lt c.val (by decide : 0 < 64), he⟩
      rw [List.cons_append, List.cons_append, List.cons_append, List.cons_append, List.nil_append,
        next?, if_neg hone, if_neg htwo, if_neg hthree, if_pos hlead]
      dsimp only
      rw [hx, hy, hz, Option.bind_eq_bind, Option.bind_some, Option.bind_some, Option.bind_some,
        map_scalar?_eq_some_iff]
      exact ⟨⟨by omega, by omega, hplain⟩, rfl⟩

/-- The first code point of octets is the one that they begin with the form of. -/
theorem next?_eq_some_iff :
    next? bytes = some (c, rest) ↔ c.isSurrogate = false ∧ bytes = octets c ++ rest := by
  constructor
  · intro h
    obtain ⟨hplain, form, hform, rfl⟩ := form_of_next? h
    exact ⟨hplain, by rw [hform.eq_octets]⟩
  · rintro ⟨hplain, rfl⟩
    exact next?_of_form hplain (form_octets c) rest

/-! ## Texts -/

/-- No code point has an empty form. -/
theorem octets_ne_nil (c : CodePoint) : octets c ≠ [] := by
  have hform := form_octets c
  intro hnil
  rw [hnil] at hform
  cases hform

theorem decodeUpTo_nil_eq_some_iff (limit : Nat) : decodeUpTo limit [] = some s ↔ s = [] := by
  have hread : decodeUpTo limit [] = some [] := by cases limit <;> rfl
  rw [hread, Option.some.injEq, eq_comm]

/-- Only the empty text has no octets. -/
theorem flatMap_octets_eq_nil_iff : s.flatMap octets = [] ↔ s = [] := by
  cases s with
  | nil => simp
  | cons c s => simp [octets_ne_nil]

/-- Octets are decoded one character at a time. -/
theorem decodeUpTo_succ_eq_some_iff {limit : Nat} {b : UInt8} :
    decodeUpTo (limit + 1) (b :: bytes) = some s ↔ ∃ c rest later,
      next? (b :: bytes) = some (c, rest) ∧ decodeUpTo limit rest = some later ∧
        s = c :: later := by
  simp only [decodeUpTo, Option.bind_eq_bind, Option.bind_eq_some_iff, Option.map_eq_some_iff]
  constructor
  · rintro ⟨⟨c, rest⟩, hnext, later, hlater, rfl⟩
    exact ⟨c, rest, later, hnext, hlater, rfl⟩
  · rintro ⟨c, rest, later, hnext, hlater, rfl⟩
    exact ⟨(c, rest), hnext, later, hlater, rfl⟩

/-- With room for as many code points as there are octets, these are read as the text that they are
the form of. -/
theorem decodeUpTo_eq_some_iff {limit : Nat} (hlimit : bytes.length ≤ limit) :
    decodeUpTo limit bytes = some s ↔
      (∀ c ∈ s, c.isSurrogate = false) ∧ bytes = s.flatMap octets := by
  induction limit generalizing bytes s with
  | zero =>
      obtain rfl := List.eq_nil_of_length_eq_zero (Nat.le_zero.mp hlimit)
      rw [decodeUpTo_nil_eq_some_iff, eq_comm (a := []), flatMap_octets_eq_nil_iff]
      exact ⟨fun h => ⟨by simp [h], h⟩, fun h => h.2⟩
  | succ limit ih =>
      cases bytes with
      | nil =>
          rw [decodeUpTo_nil_eq_some_iff, eq_comm (a := []), flatMap_octets_eq_nil_iff]
          exact ⟨fun h => ⟨by simp [h], h⟩, fun h => h.2⟩
      | cons b tail =>
          rw [decodeUpTo_succ_eq_some_iff]
          have hroom {c : CodePoint} {rest : List UInt8} (hbytes : b :: tail = octets c ++ rest) :
              rest.length ≤ limit := by
            have hpos := List.length_pos_iff.mpr (octets_ne_nil c)
            have hlength := congrArg List.length hbytes
            rw [List.length_append] at hlength
            omega
          constructor
          · rintro ⟨c, rest, later, hnext, hlater, rfl⟩
            obtain ⟨hplain, hbytes⟩ := next?_eq_some_iff.mp hnext
            obtain ⟨hall, rfl⟩ := (ih (hroom hbytes)).mp hlater
            exact ⟨List.forall_mem_cons.mpr ⟨hplain, hall⟩, by rw [hbytes, List.flatMap_cons]⟩
          · rintro ⟨hall, hbytes⟩
            cases s with
            | nil => simp at hbytes
            | cons c later =>
                obtain ⟨hplain, hall⟩ := List.forall_mem_cons.mp hall
                rw [List.flatMap_cons] at hbytes
                exact ⟨c, _, later, next?_eq_some_iff.mpr ⟨hplain, hbytes⟩,
                  (ih (hroom hbytes)).mpr ⟨hall, rfl⟩, rfl⟩

/-- A text has a form in octets exactly if it holds no half of a character, and then the form is
that of its characters, one after the other. -/
theorem encode_eq_some_iff :
    encode s = some bytes ↔ (∀ c ∈ s, c.isSurrogate = false) ∧ s.flatMap octets = bytes := by
  have hany : s.any CodePoint.isSurrogate = true ↔ ¬ ∀ c ∈ s, c.isSurrogate = false := by
    simp [List.any_eq_true]
  rw [encode]
  split
  · next hsurrogate => simp [hany.mp hsurrogate]
  · next hplain =>
      have hall := Decidable.not_not.mp fun hsurrogate => hplain (hany.mpr hsurrogate)
      rw [Option.some.injEq]
      exact ⟨fun hbytes => ⟨hall, hbytes⟩, fun h => h.2⟩

/-- Octets are read as a text exactly if they are what is written for it. -/
theorem decode_eq_some_iff : decode bytes = some s ↔ encode s = some bytes := by
  rw [decode, decodeUpTo_eq_some_iff (Nat.le_refl _), encode_eq_some_iff, eq_comm (a := bytes)]

/-- Octets are refused exactly if they are written for no text. -/
theorem decode_eq_none_iff : decode bytes = none ↔ ∀ s, encode s ≠ some bytes := by
  simp only [Option.eq_none_iff_forall_ne_some, ne_eq, decode_eq_some_iff]

end ContentQuery.Utf8
