import CapabilityGuard.Octets.Basic

/-! The keyed BLAKE3 hash. The input is cut into chunks of 1024 bytes, each chunk is chained
through its blocks of 64 bytes, and the chunks are joined in pairs, level by level, until one
node is left. -/
namespace CapabilityGuard.Blake3

abbrev Words (n : Nat) := Vector UInt32 n

def initial : Words 4 := #v[0x6A09E667, 0xBB67AE85, 0x3C6EF372, 0xA54FF53A]

/-- Where each message word of the next round is taken from. -/
def schedule : Vector (Fin 16) 16 := #v[2, 6, 3, 10, 7, 0, 4, 13, 1, 11, 12, 5, 9, 14, 15, 8]

def chunkStart : UInt32 := 1
def chunkEnd : UInt32 := 2
def parent : UInt32 := 4
def root : UInt32 := 8
def keyed : UInt32 := 16

def rotate (word count : UInt32) : UInt32 := (word >>> count) ||| (word <<< (32 - count))

def quarter (s : Words 16) (a b c d : Fin 16) (x y : UInt32) : Words 16 :=
  let s := s.set a (s[a] + s[b] + x)
  let s := s.set d (rotate (s[d] ^^^ s[a]) 16)
  let s := s.set c (s[c] + s[d])
  let s := s.set b (rotate (s[b] ^^^ s[c]) 12)
  let s := s.set a (s[a] + s[b] + y)
  let s := s.set d (rotate (s[d] ^^^ s[a]) 8)
  let s := s.set c (s[c] + s[d])
  s.set b (rotate (s[b] ^^^ s[c]) 7)

/-- Mixes the columns and then the diagonals. -/
def round (s m : Words 16) : Words 16 :=
  let s := quarter s 0 4 8 12 m[0] m[1]
  let s := quarter s 1 5 9 13 m[2] m[3]
  let s := quarter s 2 6 10 14 m[4] m[5]
  let s := quarter s 3 7 11 15 m[6] m[7]
  let s := quarter s 0 5 10 15 m[8] m[9]
  let s := quarter s 1 6 11 12 m[10] m[11]
  let s := quarter s 2 7 8 13 m[12] m[13]
  quarter s 3 4 9 14 m[14] m[15]

def rounds : Nat → Words 16 → Words 16 → Words 16
  | 0, s, _ => s
  | count + 1, s, m => rounds count (round s m) (schedule.map (fun i => m[i]))

def compress (chain : Words 8) (block : Words 16) (counter : UInt64) (size flags : UInt32) :
    Words 8 :=
  let start : Words 16 := chain ++ initial ++
    #v[counter.toUInt32, (counter >>> 32).toUInt32, size, flags]
  let mixed := rounds 7 start block
  .ofFn fun i => mixed[i.val] ^^^ mixed[i.val + 8]

/-- Little-endian words from the front of a byte string, with zero bytes where it ends. -/
def wordsOf (n : Nat) (bytes : List UInt8) : Words n :=
  let bytes := bytes.toArray
  let byteAt (i : Nat) : UInt32 := (bytes[i]?.getD 0).toUInt32
  .ofFn fun i => byteAt (4 * i) ||| (byteAt (4 * i + 1) <<< 8) |||
    (byteAt (4 * i + 2) <<< 16) ||| (byteAt (4 * i + 3) <<< 24)

def bytesOf (words : Words 8) : Octets 32 where
  toList := words.toList.flatMap fun (w : UInt32) =>
    [w.toUInt8, (w >>> 8).toUInt8, (w >>> 16).toUInt8, (w >>> 24).toUInt8]
  length_toList := by simp [List.length_flatMap, List.map_const']

/-- Cuts a byte string after every `size + 1` bytes. There is always a last piece, which may be
empty only when there is no other. -/
def pieces (size : Nat) (bytes : List UInt8) : List (List UInt8) :=
  match more : bytes.drop (size + 1) with
  | [] => [bytes]
  | next :: rest => bytes.take (size + 1) :: pieces size (next :: rest)
termination_by bytes.length
decreasing_by
  have := congrArg List.length more
  simp only [List.length_drop, List.length_cons] at this ⊢
  omega

/-- Chains the blocks of the chunk with this index. `start` marks its first block and `top` its
last one when the chunk is the whole input. -/
def chainBlocks (index : UInt64) (top : UInt32) : UInt32 → Words 8 → List (List UInt8) → Words 8
  | _, chain, [] => chain
  | start, chain, [block] =>
    compress chain (wordsOf 16 block) index block.length.toUInt32
      (keyed ||| start ||| chunkEnd ||| top)
  | start, chain, block :: rest =>
    chainBlocks index top 0 (compress chain (wordsOf 16 block) index 64 (keyed ||| start)) rest

def chunk (key : Words 8) (top : UInt32) (bytes : List UInt8) (index : Nat) : Words 8 :=
  chainBlocks index.toUInt64 top chunkStart key (pieces 63 bytes)

def join (key : Words 8) (top : UInt32) (left right : Words 8) : Words 8 :=
  compress key (left ++ right) 0 64 (keyed ||| parent ||| top)

/-- Joins neighbours; a node without one moves up as it is. -/
def level (key : Words 8) : List (Words 8) → List (Words 8)
  | left :: right :: rest => join key 0 left right :: level key rest
  | nodes => nodes

theorem length_level (key : Words 8) (nodes : List (Words 8)) :
    (level key nodes).length = (nodes.length + 1) / 2 := by
  fun_induction level key nodes with
  | case1 left right rest ih => simp [ih]; omega
  | case2 nodes short =>
    rcases nodes with _ | ⟨left, _ | ⟨right, rest⟩⟩
    · simp
    · simp
    · exact absurd rfl (short left right rest)

/-- The last join is marked as the root. -/
def top (key : Words 8) (nodes : List (Words 8)) : Words 8 :=
  match nodes with
  | [] => key
  | [node] => node
  | [left, right] => join key root left right
  | a :: b :: c :: rest => top key (level key (a :: b :: c :: rest))
termination_by nodes.length
decreasing_by simp [length_level]; omega

def hash (key : Octets 32) (input : List UInt8) : Octets 32 :=
  let key := wordsOf 8 key.toList
  match pieces 1023 input with
  | [only] => bytesOf (chunk key root only 0)
  | chunks => bytesOf (top key (chunks.mapIdx fun index bytes => chunk key 0 bytes index))

end CapabilityGuard.Blake3
