/-!
# BLAKE3

The unkeyed BLAKE3 hash of a byte sequence. The input is cut into chunks of 1024 bytes, each chunk
is chained through blocks of 64 bytes, and the chunk values are the leaves of a binary tree whose
left subtrees are complete.
-/

namespace Stratalog.Blake3

/-- Eight words: the state handed from block to block. -/
abbrev Chain := List UInt32

/-- The initial chaining value. -/
def iv : Chain :=
  [0x6A09E667, 0xBB67AE85, 0x3C6EF372, 0xA54FF53A, 0x510E527F, 0x9B05688C, 0x1F83D9AB, 0x5BE0CD19]

/-- Where each message word goes between rounds. -/
def permutation : List Nat :=
  [2, 6, 3, 10, 7, 0, 4, 13, 1, 11, 12, 5, 9, 14, 15, 8]

/-- The first block of a chunk. -/
def chunkStart : UInt32 := 1

/-- The last block of a chunk. -/
def chunkEnd : UInt32 := 2

/-- A block that joins two subtrees. -/
def parent : UInt32 := 4

/-- The last compression of all. -/
def root : UInt32 := 8

/-- Rotate a word to the right. -/
def rotateRight (word count : UInt32) : UInt32 :=
  (word >>> count) ||| (word <<< (32 - count))

/-- Mix two message words into four state words. -/
def mix (state : Array UInt32) (a b c d : Nat) (x y : UInt32) : Array UInt32 :=
  let va := state.getD a 0 + state.getD b 0 + x
  let vd := rotateRight (state.getD d 0 ^^^ va) 16
  let vc := state.getD c 0 + vd
  let vb := rotateRight (state.getD b 0 ^^^ vc) 12
  let va := va + vb + y
  let vd := rotateRight (vd ^^^ va) 8
  let vc := vc + vd
  let vb := rotateRight (vb ^^^ vc) 7
  (((state.set! a va).set! b vb).set! c vc).set! d vd

/-- One round: mix the columns, then the diagonals. -/
def round (state block : Array UInt32) : Array UInt32 :=
  let word := fun i => block.getD i 0
  let state := mix state 0 4 8 12 (word 0) (word 1)
  let state := mix state 1 5 9 13 (word 2) (word 3)
  let state := mix state 2 6 10 14 (word 4) (word 5)
  let state := mix state 3 7 11 15 (word 6) (word 7)
  let state := mix state 0 5 10 15 (word 8) (word 9)
  let state := mix state 1 6 11 12 (word 10) (word 11)
  let state := mix state 2 7 8 13 (word 12) (word 13)
  mix state 3 4 9 14 (word 14) (word 15)

/-- Rounds, with the message words permuted between them. -/
def rounds : Nat → Array UInt32 → Array UInt32 → Array UInt32
  | 0, state, _ => state
  | n + 1, state, block =>
    rounds n (round state block) (permutation.map fun i => block.getD i 0).toArray

/-- The chaining value after one block. -/
def compress (chain : Chain) (block : Array UInt32) (counter : UInt64) (length flags : UInt32) :
    Chain :=
  let state := chain ++ iv.take 4 ++
    [counter.toUInt32, (counter >>> 32).toUInt32, length, flags]
  let state := rounds 7 state.toArray block
  (List.range 8).map fun i => state.getD i 0 ^^^ state.getD (i + 8) 0

/-- The little-endian word of up to four bytes. -/
def word : List UInt8 → UInt32
  | [] => 0
  | byte :: rest => byte.toUInt32 ||| (word rest <<< 8)

/-- Up to `n` words, four bytes each, zero bytes standing in for missing ones. -/
def words : Nat → List UInt8 → List UInt32
  | 0, _ => []
  | n + 1, bytes => word (bytes.take 4) :: words n (bytes.drop 4)

/-- Cut a list into pieces of `size`, at most `fuel` of them. -/
def pieces (size : Nat) : Nat → List α → List (List α)
  | 0, _ => []
  | fuel + 1, items =>
    if items.isEmpty then [] else items.take size :: pieces size fuel (items.drop size)

/-- Chain the blocks of a chunk; `last` is added to the flags of its last block. -/
def chainBlocks (counter : UInt64) (last : UInt32) : UInt32 → Chain → List (List UInt8) → Chain
  | start, chain, [] => compress chain #[] counter 0 (start ||| last)
  | start, chain, [block] =>
    compress chain (words 16 block).toArray counter block.length.toUInt32 (start ||| last)
  | start, chain, block :: rest =>
    chainBlocks counter last 0
      (compress chain (words 16 block).toArray counter block.length.toUInt32 start) rest

/-- The value of a chunk. `final` carries the root flag when the chunk is the whole input. -/
def chunkValue (counter : Nat) (final : UInt32) (bytes : List UInt8) : Chain :=
  chainBlocks counter.toUInt64 (chunkEnd ||| final) chunkStart iv (pieces 64 16 bytes)

/-- The value of a node over two subtrees. -/
def parentValue (final : UInt32) (left right : Chain) : Chain :=
  compress iv (left ++ right).toArray 0 64 (parent ||| final)

/-- The number of chunks of the left subtree over `n` chunks: the largest power of two below it. -/
def leftSize (n : Nat) : Nat :=
  Nat.pow 2 (Nat.log2 (n - 1))

/-- The value of a subtree over consecutive chunks; `fuel` bounds its height. -/
def treeValue : Nat → Nat → UInt32 → List (List UInt8) → Chain
  | _, counter, final, [] => chunkValue counter final []
  | _, counter, final, [chunk] => chunkValue counter final chunk
  | 0, counter, final, chunk :: _ => chunkValue counter final chunk
  | fuel + 1, counter, final, chunks =>
    let size := leftSize chunks.length
    parentValue final (treeValue fuel counter 0 (chunks.take size))
      (treeValue fuel (counter + size) 0 (chunks.drop size))

/-- The hash of a byte sequence, as eight little-endian words. -/
def hash (bytes : List UInt8) : Chain :=
  let chunks := pieces 1024 bytes.length bytes
  treeValue chunks.length 0 root chunks

/-- The hexadecimal digits of a word in little-endian byte order. -/
def wordHex (word : UInt32) : List Char :=
  ([0, 8, 16, 24] : List UInt32).flatMap fun shift =>
    let byte := ((word >>> shift) &&& 0xff).toNat
    [Nat.digitChar (byte / 16), Nat.digitChar (byte % 16)]

/-- The hash of a byte sequence in hexadecimal. -/
def hexHash (bytes : List UInt8) : String :=
  String.ofList ((hash bytes).flatMap wordHex)

end Stratalog.Blake3
