import SourceAtlas.Chars.Basic

/-! The BLAKE3 hash with its default output of 32 bytes. The input is cut into chunks of 1024 bytes,
each chunk is compressed block by block, and chunks are joined in a binary tree whose left side is
the largest power of two of chunks that leaves something for the right side. -/
namespace SourceAtlas.Blake3

/-- The initial chaining value. -/
def iv : Array UInt32 :=
  #[0x6A09E667, 0xBB67AE85, 0x3C6EF372, 0xA54FF53A, 0x510E527F, 0x9B05688C, 0x1F83D9AB, 0x5BE0CD19]

/-- How the words of a block move from one round to the next. -/
def permutation : Array Nat :=
  #[2, 6, 3, 10, 7, 0, 4, 13, 1, 11, 12, 5, 9, 14, 15, 8]

def chunkStart : UInt32 := 1
def chunkEnd : UInt32 := 2
def parentFlag : UInt32 := 4
def rootFlag : UInt32 := 8

def word (words : Array UInt32) (i : Nat) : UInt32 :=
  words.getD i 0

def rotateRight (x : UInt32) (n : UInt32) : UInt32 :=
  (x >>> n) ||| (x <<< (32 - n))

/-- Mixes two words of a block into four words of the state. -/
def mix (state : Array UInt32) (a b c d : Nat) (x y : UInt32) : Array UInt32 :=
  let va := word state a + word state b + x
  let vd := rotateRight (word state d ^^^ va) 16
  let vc := word state c + vd
  let vb := rotateRight (word state b ^^^ vc) 12
  let va := va + vb + y
  let vd := rotateRight (vd ^^^ va) 8
  let vc := vc + vd
  let vb := rotateRight (vb ^^^ vc) 7
  (((state.setIfInBounds a va).setIfInBounds b vb).setIfInBounds c vc).setIfInBounds d vd

/-- One round: the columns of the state, then its diagonals. -/
def round (state block : Array UInt32) : Array UInt32 :=
  let m := word block
  let state := mix state 0 4 8 12 (m 0) (m 1)
  let state := mix state 1 5 9 13 (m 2) (m 3)
  let state := mix state 2 6 10 14 (m 4) (m 5)
  let state := mix state 3 7 11 15 (m 6) (m 7)
  let state := mix state 0 5 10 15 (m 8) (m 9)
  let state := mix state 1 6 11 12 (m 10) (m 11)
  let state := mix state 2 7 8 13 (m 12) (m 13)
  mix state 3 4 9 14 (m 14) (m 15)

def permute (block : Array UInt32) : Array UInt32 :=
  permutation.map (word block)

/-- The remaining rounds, with the words of the block moved between two of them. -/
def rounds : Nat → Array UInt32 → Array UInt32 → Array UInt32
  | 0, state, _ => state
  | n + 1, state, block => rounds n (round state block) (permute block)

/-- What is left to compress: chaining value, block, chunk number, block length and flags. Whether
it is the root is decided later. -/
structure Output where
  chaining : Array UInt32
  block : Array UInt32
  counter : Nat
  length : Nat
  flags : UInt32

/-- The first eight words of the compressed state. -/
def compress (o : Output) (flags : UInt32) : Array UInt32 :=
  let words := Nat.pow 2 32
  let tail := #[word iv 0, word iv 1, word iv 2, word iv 3, (o.counter % words).toUInt32,
    (o.counter / words).toUInt32, o.length.toUInt32, flags]
  let state := rounds 7 (o.chaining ++ tail) o.block
  (Array.range 8).map fun i => word state i ^^^ word state (i + 8)

/-- The chaining value of something that is not the root. -/
def Output.chain (o : Output) : Array UInt32 :=
  compress o o.flags

/-- The word made of four bytes, lowest first; bytes behind the end count as zero. -/
def wordAt (bytes : ByteArray) (at_ : Nat) : UInt32 :=
  let byte (i : Nat) : UInt32 :=
    if h : at_ + i < bytes.size then (bytes.get (at_ + i) h).toUInt32 else 0
  byte 0 ||| (byte 1 <<< 8) ||| (byte 2 <<< 16) ||| (byte 3 <<< 24)

/-- The sixteen words of a block of at most 64 bytes. -/
def blockWords (bytes : ByteArray) : Array UInt32 :=
  (Array.range 16).map fun i => wordAt bytes (4 * i)

/-- Compresses the blocks of a chunk up to the last one, which is left over. -/
def chunkFrom (bytes : ByteArray) (counter : Nat) (chaining : Array UInt32) (startFlag : UInt32) :
    Output :=
  if 64 < bytes.size then
    let block : Output := ⟨chaining, blockWords (bytes.extract 0 64), counter, 64, startFlag⟩
    chunkFrom (bytes.extract 64 bytes.size) counter block.chain 0
  else ⟨chaining, blockWords bytes, counter, bytes.size, startFlag ||| chunkEnd⟩
termination_by bytes.size
decreasing_by simp [ByteArray.size_extract]; omega

/-- A whole chunk. -/
def chunk (bytes : ByteArray) (counter : Nat) : Output :=
  chunkFrom bytes counter iv chunkStart

/-- Two parts of the tree joined. -/
def join (left right : Output) : Output :=
  ⟨iv, left.chain ++ right.chain, 0, 64, parentFlag⟩

/-- The largest power of two below `n`, for `n` above one. -/
def leftChunks (n : Nat) : Nat :=
  Nat.pow 2 (Nat.log2 (n - 1))

theorem leftChunks_pos (n : Nat) : 0 < leftChunks n :=
  Nat.two_pow_pos _

theorem leftChunks_le (n : Nat) (several : 1 < n) : leftChunks n ≤ n - 1 :=
  Nat.log2_self_le (by omega)

/-- The bytes in the left part of the tree over more bytes than a chunk holds. -/
def leftSize (size : Nat) : Nat :=
  1024 * leftChunks ((size + 1023) / 1024)

theorem leftSize_pos (size : Nat) : 0 < leftSize size :=
  Nat.mul_pos (by decide) (leftChunks_pos _)

theorem leftSize_lt (size : Nat) (large : 1024 < size) : leftSize size < size := by
  have below := leftChunks_le ((size + 1023) / 1024) (by omega)
  unfold leftSize
  omega

/-- The left part is smaller than the whole. -/
theorem size_left_lt (bytes : ByteArray) (large : 1024 < bytes.size) :
    (bytes.extract 0 (leftSize bytes.size)).size < bytes.size := by
  have below := leftSize_lt bytes.size large
  rw [ByteArray.size_extract]
  omega

/-- The right part is smaller than the whole. -/
theorem size_right_lt (bytes : ByteArray) (large : 1024 < bytes.size) :
    (bytes.extract (leftSize bytes.size) bytes.size).size < bytes.size := by
  have positive := leftSize_pos bytes.size
  rw [ByteArray.size_extract]
  omega

/-- The tree over some bytes whose first chunk has the given number. -/
def tree (bytes : ByteArray) (counter : Nat) : Output :=
  if large : 1024 < bytes.size then
    let left := leftSize bytes.size
    join (tree (bytes.extract 0 left) counter)
      (tree (bytes.extract left bytes.size) (counter + left / 1024))
  else chunk bytes counter
termination_by bytes.size
decreasing_by
  · exact size_left_lt bytes large
  · exact size_right_lt bytes large

/-- The bytes of a word, lowest first. -/
def bytesOf (w : UInt32) : List Nat :=
  [w.toNat % 256, w.toNat / 256 % 256, w.toNat / 65536 % 256, w.toNat / 16777216]

/-- The hash of some bytes. -/
def hash (bytes : ByteArray) : List Nat :=
  let root := tree bytes 0
  (compress root (root.flags ||| rootFlag)).toList.flatMap bytesOf

/-- The hash in hexadecimal. -/
def hexDigest (bytes : ByteArray) : String :=
  String.ofList ((hash bytes).flatMap fun byte =>
    [Chars.hexDigit (byte / 16), Chars.hexDigit (byte % 16)])

end SourceAtlas.Blake3
