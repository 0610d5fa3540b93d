import EvGrpc.Db.Types
import EvGrpc.Lib.Formats
import Mathlib.Data.Nat.Digits.Defs
import Mathlib.Data.Nat.Digits.Lemmas

/-!
# The integers of a JWK

`Base64UrlDecode` and the part of `JwkToPem` that builds the two `BIGNUM`s, of
`auth/jwks_cache.cc`.  The handler swaps the two characters of the URL-safe alphabet, fills the
text up with `=` to a multiple of four, which gives the standard encoding of the same bytes
(`repad_encodeUrl`), and has OpenSSL decode it.

OpenSSL is a parameter, and both parts of it take their sizes as `int`s.  `Bio` is a chain of
`BIO_f_base64` with `BIO_FLAGS_BASE64_NO_NL` over `BIO_new_mem_buf`: the sizes are cast, so a
text of more than `INT_MAX` characters is not read as a whole.  `BigNums` is `BN_bin2bn`, which
has a bound of its own.

A `std::string` is the list of its characters here; no allocation fails.
-/

namespace EvGrpc

open Lib Lib.Base64

/-! ## The code -/

/-- `static_cast<int>` of a size. -/
def castInt (n : ℕ) : ℤ := ((n : ℤ) + 2147483648) % 4294967296 - 2147483648

/-- A chain that decodes base64: the bytes that one `BIO_read` for at most `dlen` bytes gives
from a memory buffer of the text and its length; `none` where `BIO_read` returns less than 0. -/
structure Bio where
  read : (text : List Char) → (len : ℤ) → (dlen : ℤ) → Option (List Byte)

/-- What the code relies on: the standard encoding is decoded exactly, and no more bytes come
back than there is room for. -/
structure Bio.Lawful (bio : Bio) : Prop where
  exact : ∀ bs : List Byte, ((encode bs).length : ℤ) ≤ 2147483647 →
    bio.read (encode bs) (encode bs).length (encode bs).length = some bs
  room : ∀ {text len dlen out}, bio.read text len dlen = some out → (out.length : ℤ) ≤ max dlen 0

/-- The integer of some big-endian bytes. -/
def ofBigEndian (bs : List Byte) : ℕ := Nat.ofDigits 256 (bs.reverse.map Fin.val)

/-- `BN_bin2bn` on some bytes and their number; `none` where it returns no `BIGNUM`, which holds
no more than `maxBytes` bytes. -/
structure BigNums where
  maxBytes : ℕ
  bin2bn : (bs : List Byte) → (len : ℤ) → Option ℕ

/-- What the code relies on: big-endian bytes are read exactly, zeros in front or not, unless the
integer has too many. -/
structure BigNums.Lawful (bn : BigNums) : Prop where
  pos : 0 < bn.maxBytes
  reads : ∀ bs : List Byte, bs.length ≤ 2147483647 → bn.bin2bn bs bs.length =
    if (Nat.digits 256 (ofBigEndian bs)).length ≤ bn.maxBytes then some (ofBigEndian bs) else none

/-- A character of the URL-safe alphabet in the standard one. -/
def standardChar (c : Char) : Char := if c = '-' then '+' else if c = '_' then '/' else c

/-- `while (b64.size() % 4 != 0) b64.push_back('=')` -/
def repad (b64 : List Char) : List Char :=
  if b64.length % 4 ≠ 0 then repad (b64 ++ ['=']) else b64
termination_by 3 - (b64.length + 3) % 4
decreasing_by
  simp only [List.length_append, List.length_singleton]
  omega

/-- `Base64UrlDecode` -/
def base64UrlDecode (bio : Bio) (text : List Char) : Except Exn (List Byte) :=
  let b64 := repad (text.map standardChar)
  match bio.read b64 (castInt b64.length) (castInt b64.length) with
  | some out => .ok out
  | none => .error ⟨.other, "base64url BIO_read failed"⟩

/-- The `BIGNUM`s that `JwkToPem` builds from `n` and `e`. -/
def jwkBignums (bio : Bio) (bn : BigNums) (n e : List Char) : Except Exn (ℕ × ℕ) := do
  let nBytes ← base64UrlDecode bio n
  let eBytes ← base64UrlDecode bio e
  if nBytes = [] ∨ eBytes = [] then
    .error ⟨.other, "JWK n/e base64url decode produced empty"⟩
  else
    match bn.bin2bn nBytes (castInt nBytes.length), bn.bin2bn eBytes (castInt eBytes.length) with
    | some n, some e => return (n, e)
    | _, _ => .error ⟨.other, "BN_bin2bn failed for JWK n/e"⟩

/-! ## Alphabet and padding -/

theorem repad_eq (b64 : List Char) :
    repad b64 = b64 ++ List.replicate ((4 - b64.length % 4) % 4) '=' := by
  fun_induction repad b64 with
  | case1 b64 h ih =>
      have hcount : (4 - b64.length % 4) % 4 = (4 - (b64.length + 1) % 4) % 4 + 1 := by omega
      rw [ih, List.length_append, List.length_singleton, hcount, List.replicate_succ,
        List.append_assoc]
      rfl
  | case2 b64 h =>
      have hzero : b64.length % 4 = 0 := by omega
      simp [hzero]

theorem standardChar_urlSymbol (i : Fin 64) : standardChar (urlSymbol i) = symbol i := by
  revert i
  decide +kernel

/-- The characters missing from the last group of four are the bytes missing from the last group
of three. -/
theorem missing_count (n : ℕ) : (4 - (4 * n + 2) / 3 % 4) % 4 = (3 - n % 3) % 3 := by
  have hrem : n % 3 = 0 ∨ n % 3 = 1 ∨ n % 3 = 2 := by omega
  rcases hrem with h | h | h
  · have hdigits : (4 * n + 2) / 3 = 4 * (n / 3) := by omega
    omega
  · have hdigits : (4 * n + 2) / 3 = 4 * (n / 3) + 2 := by omega
    omega
  · have hdigits : (4 * n + 2) / 3 = 4 * (n / 3) + 3 := by omega
    omega

/-- The swap and the padding turn the URL-safe encoding into the standard one. -/
theorem repad_encodeUrl (bs : List Byte) :
    repad ((encodeUrl bs).map standardChar) = encode bs := by
  have hswap : (encodeUrl bs).map standardChar = (sextets bs).map symbol := by
    rw [encodeUrl, List.map_map]
    exact List.map_congr_left fun i _ => standardChar_urlSymbol i
  rw [repad_eq, hswap, encode, List.length_map, length_sextets, missing_count]

/-! ## Integers -/

/-- The minimal big-endian bytes of an integer. -/
def bigEndian (n : ℕ) : List Byte := ((Nat.digits 256 n).map (Fin.ofNat 256)).reverse

theorem length_bigEndian (n : ℕ) : (bigEndian n).length = (Nat.digits 256 n).length := by
  simp [bigEndian]

theorem bigEndian_ne_nil {n : ℕ} (h : 0 < n) : bigEndian n ≠ [] := by
  simp [bigEndian, Nat.digits_eq_nil_iff_eq_zero, h.ne']

/-- The bytes denote the integer. -/
theorem ofBigEndian_bigEndian (n : ℕ) : ofBigEndian (bigEndian n) = n := by
  have hdigits : ((Nat.digits 256 n).map (Fin.ofNat 256)).map Fin.val = Nat.digits 256 n := by
    rw [List.map_map]
    conv_rhs => rw [← List.map_id (Nat.digits 256 n)]
    apply List.map_congr_left
    intro d hd
    exact Nat.mod_eq_of_lt (Nat.digits_lt_base (by decide) hd)
  rw [ofBigEndian, bigEndian, List.reverse_reverse, hdigits, Nat.ofDigits_digits]

theorem bin2bn_bigEndian {bn : BigNums} (hbn : bn.Lawful) {n : ℕ}
    (h : (bigEndian n).length ≤ 2147483647) :
    bn.bin2bn (bigEndian n) (castInt (bigEndian n).length) =
      if (bigEndian n).length ≤ bn.maxBytes then some n else none := by
  have hcast : castInt (bigEndian n).length = (bigEndian n).length := by
    unfold castInt
    omega
  rw [hcast, hbn.reads _ h, ofBigEndian_bigEndian, length_bigEndian]

/-! ## Decoding -/

/-- The size of the text that OpenSSL is given for an integer. -/
def paddedSize (n : ℕ) : ℕ := 4 * (((bigEndian n).length + 2) / 3)

/-- The encoding of the integer is decoded to its bytes. -/
def Decodes (bio : Bio) (n : ℕ) : Prop :=
  base64UrlDecode bio (encodeUrl (bigEndian n)) = .ok (bigEndian n)

/-- The integer survives: its encoding is decoded to its bytes, and whichever of the two integers
of a key it is, `JwkToPem` builds it beside any other that is decoded and that a `BIGNUM` holds. -/
structure Survives (bio : Bio) (bn : BigNums) (n : ℕ) : Prop where
  decodes : Decodes bio n
  builds : ∀ e, 0 < e → Decodes bio e → (bigEndian e).length ≤ bn.maxBytes →
    jwkBignums bio bn (encodeUrl (bigEndian n)) (encodeUrl (bigEndian e)) = .ok (n, e) ∧
    jwkBignums bio bn (encodeUrl (bigEndian e)) (encodeUrl (bigEndian n)) = .ok (e, n)

section Decoding
variable {bio : Bio} {bn : BigNums} {n e : ℕ}

theorem base64UrlDecode_encodeUrl (bio : Bio) (bs : List Byte) :
    base64UrlDecode bio (encodeUrl bs) =
      match bio.read (encode bs) (castInt (encode bs).length) (castInt (encode bs).length) with
      | some out => .ok out
      | none => .error ⟨.other, "base64url BIO_read failed"⟩ := by
  rw [base64UrlDecode, repad_encodeUrl]

/-- A text whose size is an `int` is decoded. -/
theorem decodes_of_size_le (hbio : bio.Lawful) {bs : List Byte}
    (h : (encode bs).length ≤ 2147483647) : base64UrlDecode bio (encodeUrl bs) = .ok bs := by
  have hcast : castInt (encode bs).length = (encode bs).length := by
    unfold castInt
    omega
  rw [base64UrlDecode_encodeUrl, hcast, hbio.exact bs (by omega)]

/-- No other text is: where the size is too large the room it leaves is too small. -/
theorem size_le_of_decodes (hbio : bio.Lawful) {bs : List Byte} (hne : bs ≠ [])
    (h : base64UrlDecode bio (encodeUrl bs) = .ok bs) : (encode bs).length ≤ 2147483647 := by
  rw [base64UrlDecode_encodeUrl] at h
  cases hread : bio.read (encode bs) (castInt (encode bs).length) (castInt (encode bs).length) with
  | none =>
      rw [hread] at h
      cases h
  | some out =>
      rw [hread] at h
      cases h
      have hroom := hbio.room hread
      have hpos : 0 < bs.length := List.length_pos_iff.mpr hne
      rw [length_encode] at hroom ⊢
      by_contra hlarge
      unfold castInt at hroom
      omega

theorem decodes_iff (hbio : bio.Lawful) (hn : 0 < n) : Decodes bio n ↔ paddedSize n ≤ 2147483647 := by
  rw [paddedSize, ← length_encode]
  constructor
  · intro h
    exact size_le_of_decodes hbio (bigEndian_ne_nil hn) h
  · intro h
    exact decodes_of_size_le hbio h

/-- Two integers whose bytes are decoded are built if a `BIGNUM` holds either. -/
theorem jwkBignums_eq (hbio : bio.Lawful) (hbn : bn.Lawful) (hn : 0 < n) (he : 0 < e)
    (hndec : Decodes bio n) (hedec : Decodes bio e) :
    jwkBignums bio bn (encodeUrl (bigEndian n)) (encodeUrl (bigEndian e)) =
      if (bigEndian n).length ≤ bn.maxBytes ∧ (bigEndian e).length ≤ bn.maxBytes then .ok (n, e)
      else .error ⟨.other, "BN_bin2bn failed for JWK n/e"⟩ := by
  have hlength : ∀ {k}, 0 < k → Decodes bio k → (bigEndian k).length ≤ 2147483647 := by
    intro k hk hdec
    have hsize := (decodes_iff hbio hk).mp hdec
    unfold paddedSize at hsize
    omega
  rw [jwkBignums, hndec, hedec]
  change (if _ then _ else _) = _
  rw [if_neg (by simp [bigEndian_ne_nil hn, bigEndian_ne_nil he]),
    bin2bn_bigEndian hbn (hlength hn hndec), bin2bn_bigEndian hbn (hlength he hedec)]
  by_cases hnmax : (bigEndian n).length ≤ bn.maxBytes
  · by_cases hemax : (bigEndian e).length ≤ bn.maxBytes
    · simp only [hnmax, hemax, and_self, if_true]
      rfl
    · simp only [hnmax, hemax, and_false, if_true, if_false]
  · simp only [hnmax, false_and, if_false]

theorem survives_iff (hbio : bio.Lawful) (hbn : bn.Lawful) (hn : 0 < n) :
    Survives bio bn n ↔ paddedSize n ≤ 2147483647 ∧ (bigEndian n).length ≤ bn.maxBytes := by
  rw [← decodes_iff hbio hn]
  constructor
  · intro h
    refine ⟨h.decodes, ?_⟩
    -- beside the integer 1
    have hone : (bigEndian 1).length = 1 := by simp [length_bigEndian]
    have hdec : Decodes bio 1 := by
      rw [decodes_iff hbio (by decide), paddedSize, hone]
      decide
    have hbuilt := (h.builds 1 (by decide) hdec (hone.symm ▸ hbn.pos)).1
    rw [jwkBignums_eq hbio hbn hn (by decide) h.decodes hdec] at hbuilt
    by_contra hmax
    rw [if_neg fun hboth => hmax hboth.1] at hbuilt
    cases hbuilt
  · intro h
    refine ⟨h.1, fun e he hedec hemax => ⟨?_, ?_⟩⟩
    · rw [jwkBignums_eq hbio hbn hn he h.1 hedec, if_pos ⟨h.2, hemax⟩]
    · rw [jwkBignums_eq hbio hbn he hn hedec h.1, if_pos ⟨hemax, h.2⟩]

end Decoding

/-- **The integers of a JWK survive decoding** as long as the size of their padded text is an
`int` and a `BIGNUM` holds them; the first is enough for the bytes.  The swap and the padding are
right for every byte string. -/
theorem jwk_integer_survives_iff (bio : Bio) (hbio : bio.Lawful) (bn : BigNums) (hbn : bn.Lawful) :
    (∀ bs, repad ((encodeUrl bs).map standardChar) = encode bs) ∧
      ∀ n, 0 < n → (Decodes bio n ↔ 4 * (((bigEndian n).length + 2) / 3) ≤ 2147483647) ∧
        (Survives bio bn n ↔ 4 * (((bigEndian n).length + 2) / 3) ≤ 2147483647 ∧
          (bigEndian n).length ≤ bn.maxBytes) :=
  ⟨repad_encodeUrl, fun _ hn => ⟨decodes_iff hbio hn, survives_iff hbio hbn hn⟩⟩

/-! ## OpenSSL on two integers -/

/-- A chain as OpenSSL's: a negative length of the buffer stands for the whole text, and there
is no room for a negative number of bytes. -/
def memoryBio : Bio where
  read text len dlen :=
    if dlen < 0 then some []
    else (decode (if len < 0 then text else text.take len.toNat)).map (·.take dlen.toNat)

theorem memoryBio_lawful : memoryBio.Lawful where
  exact := by
    intro bs _
    have hbytes : bs.length ≤ (encode bs).length := by
      rw [length_encode]
      omega
    simp only [memoryBio]
    rw [if_neg (by omega), if_neg (by omega), Int.toNat_natCast, List.take_length, decode_encode,
      Option.map_some, List.take_of_length_le hbytes]
  room := by
    intro text len dlen out h
    simp only [memoryBio] at h
    by_cases hneg : dlen < 0
    · rw [if_pos hneg] at h
      cases h
      simp
    · rw [if_neg hneg] at h
      obtain ⟨bs, -, rfl⟩ := Option.map_eq_some_iff.mp h
      rw [List.length_take]
      omega

/-- `BIGNUM`s as OpenSSL 3.0 has them, of at most 67108856 bytes. -/
def openssl : BigNums where
  maxBytes := 67108856
  bin2bn bs len :=
    let n := ofBigEndian (bs.take len.toNat)
    if len < 0 then none
    else if (Nat.digits 256 n).length ≤ 67108856 then some n
    else none

theorem openssl_lawful : openssl.Lawful where
  pos := by decide
  reads := by
    intro bs _
    have hlen : ¬ (bs.length : ℤ) < 0 := by omega
    simp only [openssl, hlen, if_false, Int.toNat_natCast, List.take_length]
    rfl

/-- The usual exponent of a key, 65537. -/
theorem jwk_integer_survives_exponent :
    bigEndian 65537 = [1, 0, 1] ∧ Survives memoryBio openssl 65537 := by
  have hbytes : bigEndian 65537 = [1, 0, 1] := by
    simp [bigEndian]
    rfl
  refine ⟨hbytes, ?_⟩
  obtain ⟨-, hiff⟩ := jwk_integer_survives_iff memoryBio memoryBio_lawful openssl openssl_lawful
  exact (hiff 65537 (by decide)).2.mpr (by rw [hbytes]; decide)

theorem length_bigEndian_pow (k : ℕ) : (bigEndian (256 ^ k)).length = k + 1 := by
  have hne : 256 ^ k ≠ 0 := pow_ne_zero k (by decide)
  rw [length_bigEndian, Nat.length_digits 256 (256 ^ k) (by decide) hne, Nat.log_pow (by decide)]

/-- The room for the bytes of 2³¹ characters is cast to a negative number: none comes back. -/
theorem decodes_to_nothing {bs : List Byte} (h : (encode bs).length = 2147483648) :
    base64UrlDecode memoryBio (encodeUrl bs) = .ok [] := by
  have hcast : castInt 2147483648 = -2147483648 := by decide
  rw [base64UrlDecode_encodeUrl, h, hcast]
  rfl

/-- An integer of 3 · 2²⁹ bytes, whose padded text has 2³¹ characters. -/
theorem large_integer_lost :
    0 < 256 ^ 1610612735 ∧ memoryBio.Lawful ∧ openssl.Lawful ∧
      base64UrlDecode memoryBio (encodeUrl (bigEndian (256 ^ 1610612735))) = .ok [] ∧
      ¬ Survives memoryBio openssl (256 ^ 1610612735) := by
  have hlength : (bigEndian (256 ^ 1610612735)).length = 1610612736 :=
    length_bigEndian_pow 1610612735
  have hpos : 0 < 256 ^ 1610612735 := pow_pos (by decide) 1610612735
  refine ⟨hpos, memoryBio_lawful, openssl_lawful, ?_, ?_⟩
  · apply decodes_to_nothing
    rw [length_encode, hlength]
  · rw [survives_iff memoryBio_lawful openssl_lawful hpos, paddedSize, hlength]
    rintro ⟨hsize, -⟩
    exact absurd hsize (by decide)

end EvGrpc
