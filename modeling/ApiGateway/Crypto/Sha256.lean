/-!
# SHA-256

The SHA-256 hash of a byte string, as the Secure Hash Standard defines it: the message is
padded with a one bit, zero bits and its bit length as a 64-bit big-endian number to a
whole number of 64-byte blocks, and each block updates eight 32-bit words through 64
rounds. The digest is the eight words written big-endian.

Main statements:
* `pad_length`: the padded message is a whole number of blocks, at least one.
* `digest_length`: every digest has 32 bytes.
-/

namespace ApiGateway.Crypto

/-- The round constants: the first 32 bits of the fractional parts of the cube roots of
the first 64 primes. -/
def roundConstants : Array UInt32 := #[
    0x428a2f98, 0x71374491, 0xb5c0fbcf, 0xe9b5dba5, 0x3956c25b, 0x59f111f1,
    0x923f82a4, 0xab1c5ed5, 0xd807aa98, 0x12835b01, 0x243185be, 0x550c7dc3,
    0x72be5d74, 0x80deb1fe, 0x9bdc06a7, 0xc19bf174, 0xe49b69c1, 0xefbe4786,
    0x0fc19dc6, 0x240ca1cc, 0x2de92c6f, 0x4a7484aa, 0x5cb0a9dc, 0x76f988da,
    0x983e5152, 0xa831c66d, 0xb00327c8, 0xbf597fc7, 0xc6e00bf3, 0xd5a79147,
    0x06ca6351, 0x14292967, 0x27b70a85, 0x2e1b2138, 0x4d2c6dfc, 0x53380d13,
    0x650a7354, 0x766a0abb, 0x81c2c92e, 0x92722c85, 0xa2bfe8a1, 0xa81a664b,
    0xc24b8b70, 0xc76c51a3, 0xd192e819, 0xd6990624, 0xf40e3585, 0x106aa070,
    0x19a4c116, 0x1e376c08, 0x2748774c, 0x34b0bcb5, 0x391c0cb3, 0x4ed8aa4a,
    0x5b9cca4f, 0x682e6ff3, 0x748f82ee, 0x78a5636f, 0x84c87814, 0x8cc70208,
    0x90befffa, 0xa4506ceb, 0xbef9a3f7, 0xc67178f2]

/-- The initial hash words: the first 32 bits of the fractional parts of the square roots
of the first 8 primes. -/
def initialWords : Array UInt32 := #[
    0x6a09e667, 0xbb67ae85, 0x3c6ef372, 0xa54ff53a,
    0x510e527f, 0x9b05688c, 0x1f83d9ab, 0x5be0cd19]

/-- Rotates a word right by `n` bits, for `n` between 1 and 31. -/
def rotr (x : UInt32) (n : UInt32) : UInt32 := (x >>> n) ||| (x <<< (32 - n))

/-- The big-endian word of four bytes. -/
def wordOf (a b c d : UInt8) : UInt32 :=
  (a.toUInt32 <<< 24) ||| (b.toUInt32 <<< 16) ||| (c.toUInt32 <<< 8) ||| d.toUInt32

/-- The four big-endian bytes of a word. -/
def bytesOf (w : UInt32) : List UInt8 :=
  [(w >>> 24).toUInt8, (w >>> 16).toUInt8, (w >>> 8).toUInt8, w.toUInt8]

/-- The big-endian words of a byte string whose length is a multiple of four. -/
def wordsOf : List UInt8 → List UInt32
  | a :: b :: c :: d :: rest => wordOf a b c d :: wordsOf rest
  | _ => []

/-- The 64-word message schedule of a block given as 16 words. -/
def schedule (block : Array UInt32) : Array UInt32 :=
  (List.range 48).foldl (fun w i =>
    let w15 := w.getD (i + 1) 0
    let w2 := w.getD (i + 14) 0
    let s0 := rotr w15 7 ^^^ rotr w15 18 ^^^ (w15 >>> 3)
    let s1 := rotr w2 17 ^^^ rotr w2 19 ^^^ (w2 >>> 10)
    w.push (w.getD i 0 + s0 + w.getD (i + 9) 0 + s1)) block

/-- One round of the compression function on the working words `a` to `h`. -/
def round (v : Array UInt32) (k w : UInt32) : Array UInt32 :=
  let a := v.getD 0 0
  let b := v.getD 1 0
  let c := v.getD 2 0
  let d := v.getD 3 0
  let e := v.getD 4 0
  let f := v.getD 5 0
  let g := v.getD 6 0
  let h := v.getD 7 0
  let s1 := rotr e 6 ^^^ rotr e 11 ^^^ rotr e 25
  let ch := (e &&& f) ^^^ (~~~e &&& g)
  let t1 := h + s1 + ch + k + w
  let s0 := rotr a 2 ^^^ rotr a 13 ^^^ rotr a 22
  let maj := (a &&& b) ^^^ (a &&& c) ^^^ (b &&& c)
  let t2 := s0 + maj
  #[t1 + t2, a, b, c, d + t1, e, f, g]

/-- Updates the hash words with one block of 16 words. -/
def compress (hs : Array UInt32) (block : Array UInt32) : Array UInt32 :=
  let w := schedule block
  let v := (List.range 64).foldl (fun v i =>
    round v (roundConstants.getD i 0) (w.getD i 0)) hs
  (List.range 8).toArray.map fun i => hs.getD i 0 + v.getD i 0

/-- The message padded to whole blocks: a one bit, zero bits, and the bit length. -/
def pad (msg : List UInt8) : List UInt8 :=
  let zeros := (119 - msg.length % 64) % 64
  let bits := msg.length * 8
  msg ++ [(0x80 : UInt8)] ++ List.replicate zeros (0 : UInt8) ++
    (List.range 8).reverse.map fun i => (bits >>> (8 * i)).toUInt8

/-- Splits a byte string into 64-byte blocks, the last possibly shorter. -/
def blocks (bs : List UInt8) : List (List UInt8) :=
  if bs.length ≤ 64 then [bs]
  else bs.take 64 :: blocks (bs.drop 64)
termination_by bs.length
decreasing_by simp only [List.length_drop]; omega

/-- The SHA-256 digest of a byte string. -/
def sha256 (msg : List UInt8) : List UInt8 :=
  let hs := (blocks (pad msg)).foldl (fun hs b => compress hs (wordsOf b).toArray) initialWords
  hs.toList.flatMap bytesOf

/-- The padded message is a whole number of blocks, at least one. -/
theorem pad_length (msg : List UInt8) :
    (pad msg).length % 64 = 0 ∧ msg.length < (pad msg).length := by
  simp only [pad, List.length_append, List.length_cons, List.length_nil, List.length_replicate,
    List.length_map, List.length_reverse, List.length_range]
  omega

/-- Every word gives four bytes. -/
@[simp] theorem bytesOf_length (w : UInt32) : (bytesOf w).length = 4 := rfl

/-- Words written out big-endian take four bytes each. -/
theorem length_flatMap_bytesOf (l : List UInt32) : (l.flatMap bytesOf).length = 4 * l.length := by
  induction l with
  | nil => rfl
  | cons x xs ih =>
    simp only [List.flatMap_cons, List.length_append, bytesOf_length, ih, List.length_cons]
    omega

/-- Compression keeps eight hash words. -/
@[simp] theorem compress_size (hs block : Array UInt32) : (compress hs block).size = 8 := by
  simp [compress]

/-- Every digest has 32 bytes. -/
theorem digest_length (msg : List UInt8) : (sha256 msg).length = 32 := by
  simp only [sha256, length_flatMap_bytesOf, Array.length_toList]
  suffices h : ∀ (bs : List (List UInt8)) (hs : Array UInt32), hs.size = 8 →
      (bs.foldl (fun hs b => compress hs (wordsOf b).toArray) hs).size = 8 by
    rw [h _ initialWords rfl]
  intro bs
  induction bs with
  | nil => intro hs h; simpa using h
  | cons b rest ih =>
    intro hs _
    simp only [List.foldl_cons]
    exact ih _ (compress_size _ _)

end ApiGateway.Crypto
