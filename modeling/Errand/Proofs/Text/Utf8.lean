import Mathlib
import Errand.Text.Utf8

/-!
# Reading what was written as UTF-8

`PartialChar.Completes p bytes c` says that bytes are what is missing of an unfinished character:
read after what is known of it, they make the character `c`. The encoding of a character is one byte
that stands for itself, or a lead byte and what completes it (`encodes_char`), so a text is read
back from its encoding (`decode_encode_append`).

Bytes need not hold whole characters, since they may be cut off anywhere. `flatMap_decode_eq_iff`
says when it does not matter that chunks of an encoding are read one by one: if and only if each
chunk holds whole characters (`IsWhole`). Otherwise at least one more character is read than was
written, as both parts of a character that was cut read as replacements (`length_le_decode`).
-/

set_option autoImplicit false

namespace Errand.Text

/-! ### Characters -/

/-- A byte that can only continue a character. -/
def IsFollower (b : UInt8) : Prop :=
  0x80 ≤ b.toNat ∧ b.toNat ≤ 0xBF

/-- Whether bytes complete an unfinished character. -/
inductive PartialChar.Completes : PartialChar → List UInt8 → Char → Prop
  /-- The last byte. -/
  | last {bits low high : Nat} {b : UInt8} (hlow : low ≤ b.toNat) (hhigh : b.toNat ≤ high)
      (hfollower : IsFollower b) :
      Completes ⟨bits, 1, low, high⟩ [b] (Char.ofNat (bits * 64 + (b.toNat - 0x80)))
  /-- A byte after which others are missing. -/
  | more {bits missing low high : Nat} {b : UInt8} {bytes : List UInt8} {c : Char}
      (hlow : low ≤ b.toNat) (hhigh : b.toNat ≤ high) (hfollower : IsFollower b)
      (hrest : Completes ⟨bits * 64 + (b.toNat - 0x80), missing + 1, 0x80, 0xBF⟩ bytes c) :
      Completes ⟨bits, missing + 2, low, high⟩ (b :: bytes) c

/-- How a character is encoded. -/
inductive Encodes : List UInt8 → Char → Prop
  /-- A byte that stands for itself. -/
  | single {b : UInt8} {c : Char} (hbegin : beginChar b.toNat = ([c], none)) : Encodes [b] c
  /-- A lead byte and what completes it. -/
  | led {b : UInt8} {p : PartialChar} {bytes : List UInt8} {c : Char}
      (hbegin : beginChar b.toNat = ([], some p)) (hcompletes : p.Completes bytes c) :
      Encodes (b :: bytes) c

section Encoding

variable {v : Nat}

theorem toNat_follower (n : Nat) : (UInt8.ofNat (n % 64 + 128)).toNat = n % 64 + 128 := by
  rw [UInt8.toNat_ofNat']
  omega

theorem isFollower_ofNat (n : Nat) : IsFollower (UInt8.ofNat (n % 64 + 128)) := by
  rw [IsFollower, toNat_follower]
  omega

/-- The last follower holds the last six bits. -/
theorem completes_last {low high : Nat} (hlow : low ≤ v % 64 + 128) (hhigh : v % 64 + 128 ≤ high) :
    PartialChar.Completes ⟨v / 64, 1, low, high⟩ [UInt8.ofNat (v % 64 + 128)] (Char.ofNat v) := by
  have h := @PartialChar.Completes.last (v / 64) low high (UInt8.ofNat (v % 64 + 128))
    (by rwa [toNat_follower]) (by rwa [toNat_follower]) (isFollower_ofNat v)
  have hv : v / 64 * 64 + (v % 64 + 128 - 0x80) = v := by omega
  rwa [toNat_follower, hv] at h

/-- A follower before the last holds the six bits before those that are missing. -/
theorem completes_more {missing low high : Nat} {bytes : List UInt8} {c : Char}
    (hlow : low ≤ v % 64 + 128) (hhigh : v % 64 + 128 ≤ high)
    (hrest : PartialChar.Completes ⟨v, missing + 1, 0x80, 0xBF⟩ bytes c) :
    PartialChar.Completes ⟨v / 64, missing + 2, low, high⟩
      (UInt8.ofNat (v % 64 + 128) :: bytes) c := by
  refine .more (by rwa [toNat_follower]) (by rwa [toNat_follower]) (isFollower_ofNat v) ?_
  have hv : v / 64 * 64 + (v % 64 + 128 - 0x80) = v := by omega
  rwa [toNat_follower, hv]

end Encoding

/-! What each kind of lead byte begins. -/

theorem beginChar_single : ∀ n < 128, beginChar n = ([Char.ofNat n], none) := by
  decide

theorem beginChar_two :
    ∀ n < 32, 2 ≤ n → beginChar (n + 192) = ([], some ⟨n, 1, 0x80, 0xBF⟩) := by
  decide

theorem beginChar_three : ∀ n < 16, beginChar (n + 224) =
    ([], some ⟨n, 2, if n = 0 then 0xA0 else 0x80, if n = 13 then 0x9F else 0xBF⟩) := by
  decide

theorem beginChar_four : ∀ n < 5, beginChar (n + 240) =
    ([], some ⟨n, 3, if n = 0 then 0x90 else 0x80, if n = 4 then 0x8F else 0xBF⟩) := by
  decide

/-- A character is encoded by a byte that stands for itself, or by a lead byte and what completes
it. -/
theorem encodes_char (c : Char) : Encodes (String.utf8EncodeChar c) c := by
  have hvalid : c.val.toNat < 0xD800 ∨ 0xDFFF < c.val.toNat ∧ c.val.toNat < 0x110000 := c.valid
  have hc : Char.ofNat c.val.toNat = c := Char.ofNat_toNat c
  rw [String.utf8EncodeChar.eq_def]
  generalize c.val.toNat = v at hvalid hc ⊢
  subst hc
  have hthree : v / 4096 = v / 64 / 64 := by omega
  have hfour : v / 262144 = v / 4096 / 64 := by omega
  dsimp only
  split
  · next hsize =>
    refine .single ?_
    rw [UInt8.toNat_ofNat', Nat.mod_eq_of_lt (by omega)]
    exact beginChar_single v (by omega)
  split
  · next hsize =>
    rw [Nat.mod_eq_of_lt (show v / 64 < 32 by omega)]
    refine .led ?_ (completes_last (show 0x80 ≤ _ by omega) (show _ ≤ 0xBF by omega))
    rw [UInt8.toNat_ofNat', Nat.mod_eq_of_lt (by omega)]
    exact beginChar_two (v / 64) (by omega) (by omega)
  split
  · next hsize =>
    have hcompletes : PartialChar.Completes
        ⟨v / 4096, 2, if v / 4096 = 0 then 0xA0 else 0x80, if v / 4096 = 13 then 0x9F else 0xBF⟩
        [UInt8.ofNat (v / 64 % 64 + 128), UInt8.ofNat (v % 64 + 128)] (Char.ofNat v) := by
      rw [hthree]
      refine completes_more ?_ ?_ (completes_last (by omega) (by omega))
      · split <;> omega
      · split <;> omega
    rw [Nat.mod_eq_of_lt (show v / 4096 < 16 by omega)]
    refine .led ?_ hcompletes
    rw [UInt8.toNat_ofNat', Nat.mod_eq_of_lt (by omega)]
    exact beginChar_three (v / 4096) (by omega)
  · next hsize =>
    have hcompletes : PartialChar.Completes
        ⟨v / 262144, 3, if v / 262144 = 0 then 0x90 else 0x80,
          if v / 262144 = 4 then 0x8F else 0xBF⟩
        [UInt8.ofNat (v / 4096 % 64 + 128), UInt8.ofNat (v / 64 % 64 + 128),
          UInt8.ofNat (v % 64 + 128)] (Char.ofNat v) := by
      rw [hfour, hthree]
      refine completes_more ?_ ?_ (completes_more (by omega) (by omega)
        (completes_last (by omega) (by omega)))
      · split <;> omega
      · split <;> omega
    rw [Nat.mod_eq_of_lt (show v / 262144 < 8 by omega)]
    refine .led ?_ hcompletes
    rw [UInt8.toNat_ofNat', Nat.mod_eq_of_lt (by omega)]
    exact beginChar_four (v / 262144) (by omega)

/-! ### Reading -/

section Reading

variable {p : PartialChar} {bytes front back : List UInt8} {c : Char}

theorem PartialChar.Completes.isFollower (h : p.Completes bytes c) : ∀ b ∈ bytes, IsFollower b := by
  induction h with
  | last _ _ hfollower => simpa using hfollower
  | more _ _ hfollower _ ih => exact List.forall_mem_cons.mpr ⟨hfollower, ih⟩

/-- What completes a character is read as its end. -/
theorem PartialChar.Completes.decodeFrom_append (h : p.Completes bytes c) (rest : List UInt8) :
    decodeFrom (some p) (bytes ++ rest) = c :: decodeFrom none rest := by
  induction h with
  | last hlow hhigh _ => simp [decodeFrom, readByte, hlow, hhigh]
  | more hlow hhigh _ _ ih => simpa [decodeFrom, readByte, hlow, hhigh] using ih

/-- A character that is cut off before its end is read as a replacement. -/
theorem PartialChar.Completes.decodeFrom_of_cut (h : p.Completes (front ++ back) c)
    (hback : back ≠ []) : decodeFrom (some p) front = [replacement] := by
  induction front generalizing p with
  | nil => rfl
  | cons b front ih =>
    rw [List.cons_append] at h
    generalize hbytes : front ++ back = bytes at h
    cases h with
    | last _ _ _ => simp [hback] at hbytes
    | more hlow hhigh _ hrest =>
      subst hbytes
      simpa [decodeFrom, readByte, hlow, hhigh] using ih hrest

/-- A follower that nothing leads is read as a replacement. -/
theorem decode_follower {b : UInt8} (h : IsFollower b) (rest : List UInt8) :
    decode (b :: rest) = replacement :: decode rest := by
  obtain ⟨hlow, hhigh⟩ := h
  have hbegin : beginChar b.toNat = ([replacement], none) := by
    simp [beginChar, leadByte, Nat.not_lt.mpr hlow, show b.toNat < 0xC2 by omega]
  simp [decode, decodeFrom, readByte, hbegin]

theorem decode_followers (h : ∀ b ∈ front, IsFollower b) (rest : List UInt8) :
    decode (front ++ rest) = List.replicate front.length replacement ++ decode rest := by
  induction front with
  | nil => rfl
  | cons b front ih =>
    rw [List.forall_mem_cons] at h
    rw [List.cons_append, decode_follower h.1, ih h.2]
    rfl

/-- An encoded character is read back. -/
theorem decode_char_append (c : Char) (rest : List UInt8) :
    decode (String.utf8EncodeChar c ++ rest) = c :: decode rest := by
  have hencodes := encodes_char c
  generalize String.utf8EncodeChar c = bytes at hencodes ⊢
  cases hencodes with
  | single hbegin => simp [decode, decodeFrom, readByte, hbegin]
  | led hbegin hcompletes =>
    simpa [decode, decodeFrom, readByte, hbegin] using hcompletes.decodeFrom_append rest

/-- The part of an encoded character that stands before a cut is read as a replacement. -/
theorem decode_of_cut (h : String.utf8EncodeChar c = front ++ back) (hfront : front ≠ [])
    (hback : back ≠ []) : decode front = [replacement] ∧ ∀ b ∈ back, IsFollower b := by
  obtain ⟨lead, front, rfl⟩ := List.exists_cons_of_ne_nil hfront
  have hencodes := encodes_char c
  rw [h, List.cons_append] at hencodes
  generalize hbytes : front ++ back = bytes at hencodes
  cases hencodes with
  | single _ => simp [hback] at hbytes
  | led hbegin hcompletes =>
    subst hbytes
    refine ⟨?_, fun b hb ↦ hcompletes.isFollower b (List.mem_append_right _ hb)⟩
    simpa [decode, decodeFrom, readByte, hbegin] using hcompletes.decodeFrom_of_cut hback

end Reading

/-! ### Texts -/

/-- Bytes that hold whole characters. -/
def IsWhole (bytes : List UInt8) : Prop :=
  ∃ text, bytes = encode text

@[simp] theorem encode_nil : encode [] = [] := rfl

theorem encode_cons (c : Char) (text : List Char) :
    encode (c :: text) = String.utf8EncodeChar c ++ encode text := rfl

theorem encode_eq_nil {text : List Char} (h : encode text = []) : text = [] := by
  cases text with
  | nil => rfl
  | cons c text => simp [encode_cons, String.utf8EncodeChar_ne_nil] at h

/-- A text is read back from its encoding. -/
theorem decode_encode_append (text : List Char) (rest : List UInt8) :
    decode (encode text ++ rest) = text ++ decode rest := by
  induction text with
  | nil => rfl
  | cons c text ih => rw [encode_cons, List.append_assoc, decode_char_append, ih, List.cons_append]

theorem decode_encode (text : List Char) : decode (encode text) = text := by
  simpa [decode, decodeFrom] using decode_encode_append text []

/-- An encoded text is cut between two characters or inside one. -/
theorem exists_of_cut {text : List Char} {front back : List UInt8}
    (h : front ++ back = encode text) :
    (∃ before after, text = before ++ after ∧ front = encode before ∧ back = encode after) ∨
      ∃ before c after left right, text = before ++ c :: after ∧ front = encode before ++ left ∧
        back = right ++ encode after ∧ String.utf8EncodeChar c = left ++ right ∧ left ≠ [] ∧
        right ≠ [] := by
  induction text generalizing front with
  | nil =>
    obtain ⟨rfl, rfl⟩ := List.append_eq_nil_iff.mp h
    exact .inl ⟨[], [], rfl, rfl, rfl⟩
  | cons c text ih =>
    rw [encode_cons] at h
    rcases List.append_eq_append_iff.mp h with ⟨right, hchar, rfl⟩ | ⟨rest, rfl, hrest⟩
    · by_cases hfront : front = []
      · subst hfront
        refine .inl ⟨[], c :: text, rfl, rfl, ?_⟩
        rw [encode_cons, hchar, List.nil_append]
      by_cases hright : right = []
      · subst hright
        refine .inl ⟨[c], text, rfl, ?_, rfl⟩
        simpa [encode_cons] using hchar.symm
      · exact .inr ⟨[], c, text, front, right, rfl, rfl, rfl, hchar, hfront, hright⟩
    · rcases ih hrest.symm with ⟨before, after, rfl, rfl, rfl⟩ |
        ⟨before, d, after, left, right, rfl, rfl, rfl, hchar, hleft, hright⟩
      · exact .inl ⟨c :: before, after, rfl, rfl, rfl⟩
      · refine .inr ⟨c :: before, d, after, left, right, rfl, ?_, rfl, hchar, hleft, hright⟩
        rw [encode_cons, List.append_assoc]

/-! ### Chunks -/

section Chunks

variable {chunks : List (List UInt8)} {text : List Char} {followers : List UInt8}

/-- Chunks of an encoding are read as one character for each that was written at least, and as one
more for each follower before it. -/
theorem length_le_decode (hfollowers : ∀ b ∈ followers, IsFollower b)
    (h : chunks.flatten = followers ++ encode text) :
    followers.length + text.length ≤ (chunks.flatMap decode).length := by
  induction chunks generalizing followers text with
  | nil =>
    obtain ⟨rfl, htext⟩ := List.append_eq_nil_iff.mp h.symm
    simp [encode_eq_nil htext]
  | cons chunk chunks ih =>
    rw [List.flatten_cons] at h
    rw [List.flatMap_cons, List.length_append]
    rcases List.append_eq_append_iff.mp h with ⟨rest, rfl, hrest⟩ | ⟨front, rfl, hfront⟩
    · rw [List.forall_mem_append] at hfollowers
      have hread := decode_followers hfollowers.1 []
      have hlength := ih hfollowers.2 hrest
      rw [List.append_nil] at hread
      simp only [hread, List.length_append, List.length_replicate] at hlength ⊢
      omega
    · rw [decode_followers hfollowers]
      rcases exists_of_cut hfront.symm with ⟨before, after, rfl, rfl, hback⟩ |
        ⟨before, c, after, left, right, rfl, rfl, hback, hchar, hleft, hright⟩
      · have hlength := @ih after [] (by simp) hback
        simp only [decode_encode, List.length_append, List.length_replicate,
          List.length_nil] at hlength ⊢
        omega
      · obtain ⟨hread, hrest⟩ := decode_of_cut hchar hleft hright
        have hlength := ih hrest hback
        simp only [decode_encode_append, hread, List.length_append, List.length_replicate,
          List.length_cons, List.length_nil] at hlength ⊢
        omega

/-- Chunks of an encoding are read as more characters than were written, unless they hold whole
characters. -/
theorem isWhole_of_length_le (h : chunks.flatten = encode text)
    (hlength : (chunks.flatMap decode).length ≤ text.length) : ∀ chunk ∈ chunks, IsWhole chunk := by
  induction chunks generalizing text with
  | nil => simp
  | cons chunk chunks ih =>
    rw [List.flatten_cons] at h
    rw [List.flatMap_cons, List.length_append] at hlength
    rcases exists_of_cut h with ⟨before, after, rfl, rfl, hback⟩ |
      ⟨before, c, after, left, right, rfl, rfl, hback, hchar, hleft, hright⟩
    · rw [decode_encode, List.length_append, Nat.add_le_add_iff_left] at hlength
      exact List.forall_mem_cons.mpr ⟨⟨before, rfl⟩, ih hback hlength⟩
    · obtain ⟨hread, hrest⟩ := decode_of_cut hchar hleft hright
      have hmore := length_le_decode hrest hback
      have hpos := List.length_pos_iff.mpr hright
      simp only [decode_encode_append, hread, List.length_append, List.length_cons,
        List.length_nil] at hlength
      omega

/-- Chunks that hold whole characters are read as the text that was written. -/
theorem flatMap_decode_of_whole (h : chunks.flatten = encode text)
    (hwhole : ∀ chunk ∈ chunks, IsWhole chunk) : chunks.flatMap decode = text := by
  have hencode : ∀ chunk ∈ chunks, encode (decode chunk) = chunk := by
    intro chunk hchunk
    obtain ⟨part, rfl⟩ := hwhole chunk hchunk
    rw [decode_encode]
  calc chunks.flatMap decode
      = decode (encode (chunks.flatMap decode)) := (decode_encode _).symm
    _ = decode (chunks.flatMap fun chunk ↦ encode (decode chunk)) :=
        congrArg decode List.flatMap_assoc
    _ = decode chunks.flatten := by rw [List.flatMap_congr hencode, List.flatMap_id']
    _ = text := by rw [h, decode_encode]

/-- Chunks of an encoding are read as the text that was written if and only if they hold whole
characters. -/
theorem flatMap_decode_eq_iff (h : chunks.flatten = encode text) :
    chunks.flatMap decode = text ↔ ∀ chunk ∈ chunks, IsWhole chunk := by
  refine ⟨fun hread ↦ ?_, flatMap_decode_of_whole h⟩
  exact isWhole_of_length_le h (by rw [hread])

end Chunks

end Errand.Text
