import ServiceDocs.Text.Utf8

namespace ServiceDocs.Text

/-!
# UTF-8 there and back

What is written to a file as UTF-8 is read again as the text that it was.

* `continuation_ofNat` — the table of start bytes, in natural numbers;
* `utf8Char_one` … `utf8Char_four` — the four forms of a character;
* `utf8Char_utf8EncodeChar` — a character is read from its own bytes, whatever follows them;
* `decodeUtf8_encodeUtf8` — so is a text;
* `exists_of_utf8Char` — a character is read from no other bytes;
* `decodeUtf8_eq_ok_iff` — bytes are read as a text exactly when they are those of the text.
-/

/-! ### Bytes as numbers -/

theorem toNat_ofNat_of_lt {n : Nat} (h : n < 256) : (UInt8.ofNat n).toNat = n := by
  rw [UInt8.toNat_ofNat']
  exact Nat.mod_eq_of_lt h

/-- The table of start bytes, in natural numbers. -/
theorem continuation_ofNat {n : Nat} (hn : n < 256) :
    continuation (UInt8.ofNat n) =
      if n < 0x80 then some (0, 0x80, 0xBF)
      else if 0xC2 ≤ n ∧ n ≤ 0xDF then some (1, 0x80, 0xBF)
      else if n = 0xE0 then some (2, 0xA0, 0xBF)
      else if n = 0xED then some (2, 0x80, 0x9F)
      else if 0xE1 ≤ n ∧ n ≤ 0xEF then some (2, 0x80, 0xBF)
      else if n = 0xF0 then some (3, 0x90, 0xBF)
      else if n = 0xF4 then some (3, 0x80, 0x8F)
      else if 0xF1 ≤ n ∧ n ≤ 0xF3 then some (3, 0x80, 0xBF)
      else none := by
  have hm : n % 256 = n := by omega
  simp only [continuation, UInt8.lt_iff_toNat_lt, UInt8.le_iff_toNat_le, Bool.and_eq_true,
    decide_eq_true_eq, beq_iff_eq, ← UInt8.toNat_inj, UInt8.toNat_ofNat', UInt8.toNat_ofNat,
    Nat.reducePow, Nat.reduceMod, hm]

/-- A byte within its bounds is taken onto the value. -/
theorem continuationBytes_ofNat {count n taken value : Nat} {low high : UInt8} {bs : List UInt8}
    (hn : n < 256) (hl : low.toNat ≤ n) (hu : n ≤ high.toNat) :
    continuationBytes (count + 1) low high taken value (UInt8.ofNat n :: bs) =
      continuationBytes count 0x80 0xBF (taken + 1) (value * 64 + (n - 0x80)) bs := by
  have hm := toNat_ofNat_of_lt hn
  rw [continuationBytes, if_pos (by simp [UInt8.le_iff_toNat_le, hm, hl, hu]), hm]

/-- A byte that holds six bits of a code point is taken onto the value. -/
theorem continuationBytes_six {count n taken value : Nat} {bs : List UInt8} :
    continuationBytes (count + 1) 0x80 0xBF taken value (UInt8.ofNat (n % 0x40 + 0x80) :: bs) =
      continuationBytes count 0x80 0xBF (taken + 1) (value * 64 + n % 0x40) bs := by
  rw [continuationBytes_ofNat (by omega) (by simp) (by simp; omega), Nat.add_sub_cancel]

/-! ### The four forms of a character -/

/-- A character below `U+0080` is one byte. -/
theorem utf8Char_one {n : Nat} (h : n ≤ 0x7f) (bs : List UInt8) :
    utf8Char (UInt8.ofNat n) bs = .ok (Char.ofNat n, 0) := by
  have hn : n < 256 := by omega
  have hc := continuation_ofNat hn
  rw [if_pos (by omega)] at hc
  rw [utf8Char, hc]
  show (continuationBytes 0 0x80 0xBF 1 (UInt8.ofNat n).toNat bs).map _ = _
  rw [toNat_ofNat_of_lt hn]
  rfl

/-- A character from `U+0080` to `U+07FF` is two bytes. -/
theorem utf8Char_two {n : Nat} (hl : 0x7f < n) (hu : n ≤ 0x7ff) (bs : List UInt8) :
    utf8Char (UInt8.ofNat (n / 64 % 0x20 + 0xc0)) (UInt8.ofNat (n % 0x40 + 0x80) :: bs)
      = .ok (Char.ofNat n, 1) := by
  have hn : n / 64 % 0x20 + 0xc0 < 256 := by omega
  have hv : n / 64 % 0x20 * 64 + n % 0x40 = n := by omega
  have hc := continuation_ofNat hn
  rw [if_neg (by omega), if_pos (by omega)] at hc
  rw [utf8Char, hc]
  show (continuationBytes 1 0x80 0xBF 1 ((UInt8.ofNat (n / 64 % 0x20 + 0xc0)).toNat - 0xC0)
    _).map _ = _
  rw [toNat_ofNat_of_lt hn, Nat.add_sub_cancel, continuationBytes_six, hv]
  rfl

/-- A character from `U+0800` to `U+FFFF` is three bytes. -/
theorem utf8Char_three {n : Nat} (hl : 0x7ff < n) (hu : n ≤ 0xffff)
    (hs : n < 0xD800 ∨ 0xDFFF < n) (bs : List UInt8) :
    utf8Char (UInt8.ofNat (n / 4096 % 0x10 + 0xe0))
      (UInt8.ofNat (n / 64 % 0x40 + 0x80) :: UInt8.ofNat (n % 0x40 + 0x80) :: bs)
      = .ok (Char.ofNat n, 2) := by
  have hn : n / 4096 % 0x10 + 0xe0 < 256 := by omega
  have hv : (n / 4096 % 0x10 * 64 + n / 64 % 0x40) * 64 + n % 0x40 = n := by omega
  -- The first byte bounds the second one: no longer form and no half of a pair is read.
  obtain ⟨low, high, hc, hlow, hhigh⟩ : ∃ low high : UInt8,
      continuation (UInt8.ofNat (n / 4096 % 0x10 + 0xe0)) = some (2, low, high) ∧
        low.toNat ≤ n / 64 % 0x40 + 0x80 ∧ n / 64 % 0x40 + 0x80 ≤ high.toNat := by
    rw [continuation_ofNat hn, if_neg (by omega), if_neg (by omega)]
    split
    · exact ⟨0xA0, 0xBF, rfl, by simp; omega, by simp; omega⟩
    split
    · exact ⟨0x80, 0x9F, rfl, by simp, by simp; omega⟩
    rw [if_pos (by omega)]
    exact ⟨0x80, 0xBF, rfl, by simp, by simp; omega⟩
  rw [utf8Char, hc]
  show (continuationBytes 2 low high 1 ((UInt8.ofNat (n / 4096 % 0x10 + 0xe0)).toNat - 0xE0)
    _).map _ = _
  rw [toNat_ofNat_of_lt hn, Nat.add_sub_cancel, continuationBytes_ofNat (by omega) hlow hhigh,
    Nat.add_sub_cancel, continuationBytes_six, hv]
  rfl

/-- A character from `U+10000` on is four bytes. -/
theorem utf8Char_four {n : Nat} (hl : 0xffff < n) (hu : n < 0x110000) (bs : List UInt8) :
    utf8Char (UInt8.ofNat (n / 262144 % 0x08 + 0xf0))
      (UInt8.ofNat (n / 4096 % 0x40 + 0x80) :: UInt8.ofNat (n / 64 % 0x40 + 0x80) ::
        UInt8.ofNat (n % 0x40 + 0x80) :: bs) = .ok (Char.ofNat n, 3) := by
  have hn : n / 262144 % 0x08 + 0xf0 < 256 := by omega
  have hv : ((n / 262144 % 0x08 * 64 + n / 4096 % 0x40) * 64 + n / 64 % 0x40) * 64 + n % 0x40
      = n := by omega
  -- Here the first byte keeps out longer forms and what lies above `U+10FFFF`.
  obtain ⟨low, high, hc, hlow, hhigh⟩ : ∃ low high : UInt8,
      continuation (UInt8.ofNat (n / 262144 % 0x08 + 0xf0)) = some (3, low, high) ∧
        low.toNat ≤ n / 4096 % 0x40 + 0x80 ∧ n / 4096 % 0x40 + 0x80 ≤ high.toNat := by
    rw [continuation_ofNat hn, if_neg (by omega), if_neg (by omega), if_neg (by omega),
      if_neg (by omega), if_neg (by omega)]
    split
    · exact ⟨0x90, 0xBF, rfl, by simp; omega, by simp; omega⟩
    split
    · exact ⟨0x80, 0x8F, rfl, by simp, by simp; omega⟩
    rw [if_pos (by omega)]
    exact ⟨0x80, 0xBF, rfl, by simp, by simp; omega⟩
  rw [utf8Char, hc]
  show (continuationBytes 3 low high 1 ((UInt8.ofNat (n / 262144 % 0x08 + 0xf0)).toNat - 0xF0)
    _).map _ = _
  rw [toNat_ofNat_of_lt hn, Nat.add_sub_cancel, continuationBytes_ofNat (by omega) hlow hhigh,
    Nat.add_sub_cancel, continuationBytes_six, continuationBytes_six, hv]
  rfl

/-! ### Texts -/

/-- The bytes of a character, by the size of its code point. -/
theorem utf8EncodeChar_eq (c : Char) :
    String.utf8EncodeChar c =
      if c.toNat ≤ 0x7f then [UInt8.ofNat c.toNat]
      else if c.toNat ≤ 0x7ff then
        [UInt8.ofNat (c.toNat / 64 % 0x20 + 0xc0), UInt8.ofNat (c.toNat % 0x40 + 0x80)]
      else if c.toNat ≤ 0xffff then
        [UInt8.ofNat (c.toNat / 4096 % 0x10 + 0xe0), UInt8.ofNat (c.toNat / 64 % 0x40 + 0x80),
          UInt8.ofNat (c.toNat % 0x40 + 0x80)]
      else
        [UInt8.ofNat (c.toNat / 262144 % 0x08 + 0xf0),
          UInt8.ofNat (c.toNat / 4096 % 0x40 + 0x80), UInt8.ofNat (c.toNat / 64 % 0x40 + 0x80),
          UInt8.ofNat (c.toNat % 0x40 + 0x80)] := rfl

/-- A code point is no half of a pair, and not above `U+10FFFF`. -/
theorem toNat_valid (c : Char) :
    c.toNat < 0xD800 ∨ 0xDFFF < c.toNat ∧ c.toNat < 0x110000 := by
  have h := c.valid
  rw [UInt32.isValidChar, Nat.isValidChar] at h
  exact h

/-- A character is read from its own bytes, whatever follows them. -/
theorem utf8Char_utf8EncodeChar (c : Char) (bs : List UInt8) :
    ∃ b rest, String.utf8EncodeChar c = b :: rest ∧
      utf8Char b (rest ++ bs) = .ok (c, rest.length) := by
  have hv := toNat_valid c
  have hc : Char.ofNat c.toNat = c := Char.ofNat_toNat c
  -- One case for each length; a character is no half, so its three bytes pass the narrower bounds,
  -- too.
  rw [utf8EncodeChar_eq]
  split
  · next h =>
    refine ⟨_, _, rfl, ?_⟩
    rw [List.nil_append, utf8Char_one h, hc, List.length_nil]
  split
  · next h =>
    refine ⟨_, _, rfl, ?_⟩
    rw [List.singleton_append, utf8Char_two (by omega) h, hc, List.length_singleton]
  split
  · next h =>
    refine ⟨_, _, rfl, ?_⟩
    rw [List.cons_append, List.singleton_append, utf8Char_three (by omega) h (by omega), hc]
    rfl
  · refine ⟨_, _, rfl, ?_⟩
    rw [List.cons_append, List.cons_append, List.singleton_append,
      utf8Char_four (by omega) (by omega), hc]
    rfl

theorem decodeFrom_flatMap (cs : List Char) (position : Nat) :
    decodeFrom position (cs.flatMap String.utf8EncodeChar) = .ok cs := by
  induction cs generalizing position with
  | nil => rw [List.flatMap_nil, decodeFrom]
  | cons c cs ih =>
    obtain ⟨b, rest, hb, hc⟩ := utf8Char_utf8EncodeChar c (cs.flatMap String.utf8EncodeChar)
    rw [List.flatMap_cons, hb, List.cons_append, decodeFrom, hc]
    simp only [List.drop_left, ih, Except.map]

/-- From a place on, the loop puts the bytes that are left behind those it has. -/
theorem byteLoop_eq (bs : ByteArray) (i : Nat) (done : List UInt8) :
    ByteArray.toList.loop bs i done = done.reverse ++ bs.data.toList.drop i := by
  fun_induction ByteArray.toList.loop bs i done with
  | case1 i done h ih =>
    have hi : i < bs.data.toList.length := by simpa using h
    have hb : bs.get! i = bs.data.toList[i] := by
      show bs.data[i]! = _
      rw [getElem!_pos bs.data i (by simpa using h), Array.getElem_toList]
    rw [ih, List.reverse_cons, List.append_assoc, List.drop_eq_getElem_cons hi, hb]
    rfl
  | case2 i done h =>
    have hi : bs.data.toList.length ≤ i := by simpa using h
    rw [List.drop_eq_nil_of_le hi, List.append_nil]

/-- The bytes of a text are those of its characters. -/
theorem encodeUtf8_eq (s : String) : encodeUtf8 s = s.toList.flatMap String.utf8EncodeChar := by
  rw [encodeUtf8, String.toUTF8_eq_toByteArray, ← String.utf8Encode_toList, List.utf8Encode,
    ByteArray.toList, byteLoop_eq, List.toList_data_toByteArray]
  rfl

/-- A text that is written to a file is read again as it was. -/
theorem decodeUtf8_encodeUtf8 (s : String) : decodeUtf8 (encodeUtf8 s) = .ok s := by
  rw [decodeUtf8, encodeUtf8_eq, decodeFrom_flatMap]
  show Except.ok (String.ofList s.toList) = _
  rw [String.ofList_toList]

/-! ### No other bytes -/

section Converse

variable {b : UInt8} {bs : List UInt8} {count : Nat}

/-- What a start byte says about the byte after it, by the number of bytes that follow. -/
theorem continuation_cases {low high : UInt8} (h : continuation b = some (count, low, high)) :
    count = 0 ∧ b.toNat ≤ 0x7F ∨
      0x80 ≤ low.toNat ∧ high.toNat ≤ 0xBF ∧
        (count = 1 ∧ 0xC2 ≤ b.toNat ∧ b.toNat ≤ 0xDF ∨
          count = 2 ∧ 0xE0 ≤ b.toNat ∧ b.toNat ≤ 0xEF ∧
            (b.toNat = 0xE0 → 0xA0 ≤ low.toNat) ∧ (b.toNat = 0xED → high.toNat ≤ 0x9F) ∨
          count = 3 ∧ 0xF0 ≤ b.toNat ∧ b.toNat ≤ 0xF4 ∧
            (b.toNat = 0xF0 → 0x90 ≤ low.toNat) ∧ (b.toNat = 0xF4 → high.toNat ≤ 0x8F)) := by
  have hb : UInt8.ofNat b.toNat = b := UInt8.ofNat_toNat
  rw [← hb, continuation_ofNat b.toNat_lt] at h
  split at h
  · cases h
    exact .inl ⟨rfl, by omega⟩
  right
  split at h
  · cases h
    exact ⟨by decide, by decide, .inl ⟨rfl, by omega⟩⟩
  -- Two of the start bytes of three and of four bytes have bounds of their own.
  iterate 3
    split at h
    · cases h
      exact ⟨by decide, by decide, .inr (.inl ⟨rfl, by simp; omega⟩)⟩
  iterate 3
    split at h
    · cases h
      exact ⟨by decide, by decide, .inr (.inr ⟨rfl, by simp; omega⟩)⟩
  cases h

/-- A byte that is taken onto the value is within its bounds. -/
theorem exists_of_continuationBytes {low high : UInt8} {taken value n : Nat}
    (h : continuationBytes (count + 1) low high taken value bs = .ok n) :
    ∃ m rest, bs = UInt8.ofNat m :: rest ∧ low.toNat ≤ m ∧ m ≤ high.toNat ∧
      continuationBytes count 0x80 0xBF (taken + 1) (value * 64 + (m - 0x80)) rest = .ok n := by
  cases bs with
  | nil => cases h
  | cons b rest =>
    rw [continuationBytes] at h
    split at h
    · next hb =>
      simp only [Bool.and_eq_true, decide_eq_true_eq, UInt8.le_iff_toNat_le] at hb
      exact ⟨b.toNat, rest, by rw [UInt8.ofNat_toNat], hb.1, hb.2, h⟩
    · cases h

theorem toNat_ofNat_of_valid {n : Nat} (h : n < 0xD800 ∨ 0xDFFF < n ∧ n < 0x110000) :
    (Char.ofNat n).toNat = n := by
  rw [Char.ofNat, dif_pos h]
  rfl

/-- A character of one byte. -/
theorem utf8EncodeChar_one {n : Nat} (h : n ≤ 0x7F) :
    String.utf8EncodeChar (Char.ofNat n) = [UInt8.ofNat n] := by
  rw [utf8EncodeChar_eq, toNat_ofNat_of_valid (by omega), if_pos h]

/-- A character of two bytes, by what they hold of its code point. -/
theorem utf8EncodeChar_two {b m n : Nat} (hb : 0xC2 ≤ b ∧ b ≤ 0xDF) (hm : 0x80 ≤ m ∧ m ≤ 0xBF)
    (hn : n = (b - 0xC0) * 64 + (m - 0x80)) :
    String.utf8EncodeChar (Char.ofNat n) = [UInt8.ofNat b, UInt8.ofNat m] := by
  have hfirst : n / 64 % 0x20 + 0xC0 = b := by omega
  have hsecond : n % 0x40 + 0x80 = m := by omega
  rw [utf8EncodeChar_eq, toNat_ofNat_of_valid (by omega), if_neg (by omega), if_pos (by omega),
    hfirst, hsecond]

/-- A character of three bytes.  It has no shorter form, and it is no half of a pair. -/
theorem utf8EncodeChar_three {b m l n : Nat} (hb : 0xE0 ≤ b ∧ b ≤ 0xEF) (hm : 0x80 ≤ m ∧ m ≤ 0xBF)
    (hl : 0x80 ≤ l ∧ l ≤ 0xBF) (hlong : b = 0xE0 → 0xA0 ≤ m) (hhalf : b = 0xED → m ≤ 0x9F)
    (hn : n = ((b - 0xE0) * 64 + (m - 0x80)) * 64 + (l - 0x80)) :
    String.utf8EncodeChar (Char.ofNat n) = [UInt8.ofNat b, UInt8.ofNat m, UInt8.ofNat l] := by
  have hfirst : n / 4096 % 0x10 + 0xE0 = b := by omega
  have hsecond : n / 64 % 0x40 + 0x80 = m := by omega
  have hthird : n % 0x40 + 0x80 = l := by omega
  rw [utf8EncodeChar_eq, toNat_ofNat_of_valid (by omega), if_neg (by omega), if_neg (by omega),
    if_pos (by omega), hfirst, hsecond, hthird]

/-- A character of four bytes.  It has no shorter form, and it is not above `U+10FFFF`. -/
theorem utf8EncodeChar_four {b m l k n : Nat} (hb : 0xF0 ≤ b ∧ b ≤ 0xF4)
    (hm : 0x80 ≤ m ∧ m ≤ 0xBF) (hl : 0x80 ≤ l ∧ l ≤ 0xBF) (hk : 0x80 ≤ k ∧ k ≤ 0xBF)
    (hlong : b = 0xF0 → 0x90 ≤ m) (hlarge : b = 0xF4 → m ≤ 0x8F)
    (hn : n = (((b - 0xF0) * 64 + (m - 0x80)) * 64 + (l - 0x80)) * 64 + (k - 0x80)) :
    String.utf8EncodeChar (Char.ofNat n) =
      [UInt8.ofNat b, UInt8.ofNat m, UInt8.ofNat l, UInt8.ofNat k] := by
  have hfirst : n / 262144 % 0x08 + 0xF0 = b := by omega
  have hsecond : n / 4096 % 0x40 + 0x80 = m := by omega
  have hthird : n / 64 % 0x40 + 0x80 = l := by omega
  have hfourth : n % 0x40 + 0x80 = k := by omega
  rw [utf8EncodeChar_eq, toNat_ofNat_of_valid (by omega), if_neg (by omega), if_neg (by omega),
    if_neg (by omega), hfirst, hsecond, hthird, hfourth]

/-- What is read as a character starts with the bytes of it. -/
theorem exists_of_utf8Char {c : Char} (h : utf8Char b bs = .ok (c, count)) :
    ∃ rest tail, bs = rest ++ tail ∧ rest.length = count ∧
      String.utf8EncodeChar c = b :: rest := by
  have hb : UInt8.ofNat b.toNat = b := UInt8.ofNat_toNat
  unfold utf8Char at h
  split at h
  · cases h
  next count' low high hstart =>
  cases hbytes : continuationBytes count' low high 1 (startPayload count' b) bs with
  | error e =>
    rw [hbytes] at h
    cases h
  | ok n =>
    rw [hbytes] at h
    obtain ⟨rfl, rfl⟩ := Prod.mk.inj (Except.ok.inj h)
    -- One form for each number of continuation bytes; the bounds on them rule out overlong forms
    -- and halves of characters.
    rcases continuation_cases hstart with ⟨rfl, hone⟩ | ⟨hlow, hhigh, hforms⟩
    · obtain rfl : b.toNat = n := Except.ok.inj hbytes
      exact ⟨[], bs, rfl, rfl, by rw [utf8EncodeChar_one hone, hb]⟩
    rcases hforms with ⟨rfl, hmin, hmax⟩ | ⟨rfl, hmin, hmax, hlong, hhalf⟩ |
      ⟨rfl, hmin, hmax, hlong, hlarge⟩
    · obtain ⟨m, tail, rfl, hm, hm', hbytes⟩ := exists_of_continuationBytes hbytes
      have hn := Except.ok.inj hbytes
      refine ⟨[UInt8.ofNat m], tail, rfl, rfl, ?_⟩
      rw [utf8EncodeChar_two ⟨hmin, hmax⟩ (by omega) hn.symm, hb]
    · obtain ⟨m, tail, rfl, hm, hm', hbytes⟩ := exists_of_continuationBytes hbytes
      obtain ⟨l, tail, rfl, hl, hl', hbytes⟩ := exists_of_continuationBytes hbytes
      have hn := Except.ok.inj hbytes
      refine ⟨[UInt8.ofNat m, UInt8.ofNat l], tail, rfl, rfl, ?_⟩
      rw [utf8EncodeChar_three ⟨hmin, hmax⟩ (by omega) ⟨hl, hl'⟩ (by omega) (by omega) hn.symm, hb]
    · obtain ⟨m, tail, rfl, hm, hm', hbytes⟩ := exists_of_continuationBytes hbytes
      obtain ⟨l, tail, rfl, hl, hl', hbytes⟩ := exists_of_continuationBytes hbytes
      obtain ⟨k, tail, rfl, hk, hk', hbytes⟩ := exists_of_continuationBytes hbytes
      have hn := Except.ok.inj hbytes
      refine ⟨[UInt8.ofNat m, UInt8.ofNat l, UInt8.ofNat k], tail, rfl, rfl, ?_⟩
      rw [utf8EncodeChar_four ⟨hmin, hmax⟩ (by omega) ⟨hl, hl'⟩ ⟨hk, hk'⟩ (by omega) (by omega)
        hn.symm, hb]

theorem eq_flatMap_of_decodeFrom {position : Nat} {cs : List Char}
    (h : decodeFrom position bs = .ok cs) : bs = cs.flatMap String.utf8EncodeChar := by
  fun_induction decodeFrom position bs generalizing cs with
  | case1 =>
    cases h
    rfl
  | case2 => cases h
  | case3 position b bs c count hc ih =>
    obtain ⟨rest, tail, rfl, rfl, hbytes⟩ := exists_of_utf8Char hc
    rw [List.drop_left] at h ih
    cases htail : decodeFrom (position + 1 + rest.length) tail with
    | error e =>
      rw [htail] at h
      cases h
    | ok cs' =>
      rw [htail] at h
      cases h
      rw [List.flatMap_cons, hbytes, List.cons_append, ← ih htail]

/-- **Bytes are read as a text exactly when they are those of the text.** -/
theorem decodeUtf8_eq_ok_iff {s : String} : decodeUtf8 bs = .ok s ↔ bs = encodeUtf8 s := by
  constructor
  · intro h
    rw [decodeUtf8] at h
    cases hchars : decodeFrom 0 bs with
    | error e =>
      rw [hchars] at h
      cases h
    | ok cs =>
      rw [hchars] at h
      cases h
      rw [encodeUtf8_eq, String.toList_ofList, ← eq_flatMap_of_decodeFrom hchars]
  · rintro rfl
    exact decodeUtf8_encodeUtf8 s

end Converse

end ServiceDocs.Text
