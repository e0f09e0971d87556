import FlexRic.Library.Checked
import Mathlib.Algebra.GroupWithZero.Nat
import Mathlib.Data.Vector.Zip

/-! # Plain byte formats

A writer puts values one after the other, a reader takes them from the front of
what it is given. Each value written in front of anything reads back as itself
and leaves what follows, so readers and writers compose.
-/

namespace FlexRic.Wire

abbrev Bytes := List UInt8

/-- What stops a reader or a writer of a plain format. -/
inductive Fault where
  /-- a read past the end of the bytes -/
  | short
  /-- a tag that is none of its enumeration -/
  | unknownTag
  /-- the place reached is not inside the chunk of memory -/
  | outOfChunk
  /-- the place reached at the end is not the end of the bytes -/
  | mismatch
  deriving DecidableEq, Repr

/-- Takes a value from the front, or stops. -/
abbrev Reader (α : Type) := StateT Bytes (Except Fault) α

variable {α β : Type} {n : Nat}

/-- The low `k` bytes of a number. -/
def bytesOf : Nat → Nat → Bytes
  | 0, _ => []
  | k + 1, v => UInt8.ofNat v :: bytesOf k (v / 256)

def valueOf : Bytes → Nat
  | [] => 0
  | b :: bs => b.toNat + 256 * valueOf bs

@[simp] theorem length_bytesOf (k v : Nat) : (bytesOf k v).length = k := by
  induction k generalizing v with
  | zero => rfl
  | succ k ih => simp [bytesOf, ih]

theorem valueOf_bytesOf (k v : Nat) : valueOf (bytesOf k v) = v % 256 ^ k := by
  induction k generalizing v with
  | zero => simp [bytesOf, valueOf, Nat.mod_one]
  | succ k ih =>
      rw [bytesOf, valueOf, ih, Nat.pow_succ, Nat.mul_comm (256 ^ k), Nat.mod_mul]
      simp

/-- Take `k` bytes. -/
def readBytes (k : Nat) : Reader Bytes := fun bytes =>
  if k ≤ bytes.length then .ok (bytes.take k, bytes.drop k) else .error .short

theorem readBytes_run {k : Nat} {front : Bytes} (width : front.length = k) (rest : Bytes) :
    (readBytes k).run (front ++ rest) = .ok (front, rest) := by
  subst width
  simp [readBytes, StateT.run]

def u16 (v : UInt16) : Bytes := bytesOf 2 v.toNat

def readU16 : Reader UInt16 := do
  let bytes ← readBytes 2
  pure (UInt16.ofNat (valueOf bytes))

def u32 (v : UInt32) : Bytes := bytesOf 4 v.toNat

def readU32 : Reader UInt32 := do
  let bytes ← readBytes 4
  pure (UInt32.ofNat (valueOf bytes))

def i32 (v : Int32) : Bytes := u32 v.toUInt32

def readI32 : Reader Int32 := do
  let v ← readU32
  pure v.toInt32

def i64 (v : Int64) : Bytes := bytesOf 8 v.toUInt64.toNat

def readI64 : Reader Int64 := do
  let bytes ← readBytes 8
  pure (UInt64.ofNat (valueOf bytes)).toInt64

@[simp] theorem length_u16 (v : UInt16) : (u16 v).length = 2 := length_bytesOf 2 _

@[simp] theorem length_u32 (v : UInt32) : (u32 v).length = 4 := length_bytesOf 4 _

@[simp] theorem length_i32 (v : Int32) : (i32 v).length = 4 := length_u32 _

@[simp] theorem length_i64 (v : Int64) : (i64 v).length = 8 := length_bytesOf 8 _

theorem i64_ne_nil (v : Int64) : i64 v ≠ [] := List.ne_nil_of_length_pos (by simp)

@[simp] theorem readU16_run (v : UInt16) (rest : Bytes) :
    readU16.run (u16 v ++ rest) = .ok (v, rest) := by
  have back : v.toNat % 256 ^ 2 = v.toNat := Nat.mod_eq_of_lt v.toNat_lt
  rw [readU16, StateT.run_bind, readBytes_run (length_u16 v), ok_bind, u16, valueOf_bytesOf, back,
    UInt16.ofNat_toNat]
  rfl

@[simp] theorem readU32_run (v : UInt32) (rest : Bytes) :
    readU32.run (u32 v ++ rest) = .ok (v, rest) := by
  have back : v.toNat % 256 ^ 4 = v.toNat := Nat.mod_eq_of_lt v.toNat_lt
  rw [readU32, StateT.run_bind, readBytes_run (length_u32 v), ok_bind, u32, valueOf_bytesOf, back,
    UInt32.ofNat_toNat]
  rfl

@[simp] theorem readI32_run (v : Int32) (rest : Bytes) :
    readI32.run (i32 v ++ rest) = .ok (v, rest) := by
  rw [readI32, StateT.run_bind, i32, readU32_run]
  rfl

@[simp] theorem readI64_run (v : Int64) (rest : Bytes) :
    readI64.run (i64 v ++ rest) = .ok (v, rest) := by
  have back : v.toUInt64.toNat % 256 ^ 8 = v.toUInt64.toNat := Nat.mod_eq_of_lt v.toUInt64.toNat_lt
  rw [readI64, StateT.run_bind, readBytes_run (length_i64 v), ok_bind, i64, valueOf_bytesOf, back,
    UInt64.ofNat_toNat]
  rfl

/-- An enumeration of C: its members and their numbers. -/
class Tag (α : Type) where
  code : α → UInt32
  ofCode : UInt32 → Option α
  ofCode_code (a : α) : ofCode (code a) = some a

def tag [Tag α] (a : α) : Bytes := u32 (Tag.code a)

/-- Take a member of an enumeration. -/
def readTag [Tag α] : Reader α := do
  let v ← readU32
  match Tag.ofCode v with
  | some a => pure a
  | none => throw .unknownTag

@[simp] theorem length_tag [Tag α] (a : α) : (tag a).length = 4 := length_u32 _

@[simp] theorem tag_ne_nil [Tag α] (a : α) : tag a ≠ [] :=
  List.ne_nil_of_length_pos (by simp)

@[simp] theorem readTag_run [Tag α] (a : α) (rest : Bytes) :
    readTag.run (tag a ++ rest) = .ok (a, rest) := by
  rw [readTag, StateT.run_bind, tag, readU32_run, ok_bind, Tag.ofCode_code]
  rfl

/-- An array with its length, as a struct of C holds the two. -/
structure Counted (α : Type) where
  len : UInt32
  items : List.Vector α len.toNat

theorem Counted.eq_of_toList {α : Type} {a b : Counted α}
    (lists : a.items.toList = b.items.toList) : a = b := by
  obtain ⟨len, items⟩ := a
  obtain ⟨len', items'⟩ := b
  have lengths : len = len' := by
    rw [← UInt32.toNat_inj, ← items.toList_length, ← items'.toList_length, lists]
  subst lengths
  rw [List.Vector.eq items items' lists]

/-- Write the items one after the other. -/
def writeMany (write : α → Bytes) (items : List.Vector α n) : Bytes := items.toList.flatMap write

/-- Take `n` items. -/
def readMany (read : Reader α) : (n : Nat) → Reader (List.Vector α n)
  | 0 => pure List.Vector.nil
  | n + 1 => do
      let a ← read
      let items ← readMany read n
      pure (List.Vector.cons a items)

@[simp] theorem writeMany_nil (write : α → Bytes) : writeMany write List.Vector.nil = [] := rfl

@[simp] theorem writeMany_cons (write : α → Bytes) (a : α) (items : List.Vector α n) :
    writeMany write (List.Vector.cons a items) = write a ++ writeMany write items := by
  rw [writeMany, List.Vector.toList_cons, List.flatMap_cons, writeMany]

/-- Items of one width each take that width times their number. -/
theorem length_writeMany {write : α → Bytes} {width : Nat} (each : ∀ a, (write a).length = width)
    (items : List.Vector α n) : (writeMany write items).length = width * n := by
  induction items using List.Vector.inductionOn with
  | nil => rfl
  | cons ih => rw [writeMany_cons, List.length_append, each, ih, Nat.mul_succ, Nat.add_comm]

section

variable {write : α → Bytes} (follows : Bytes → Prop)

theorem follows_writeMany (closed : ∀ a rest, follows rest → follows (write a ++ rest))
    (items : List.Vector α n) {rest : Bytes} (after : follows rest) :
    follows (writeMany write items ++ rest) := by
  induction items using List.Vector.inductionOn with
  | nil => exact after
  | cons ih =>
      rw [writeMany_cons, List.append_assoc]
      exact closed _ _ ih

/-- When each item reads as what becomes of it, in front of what can follow it, so
    do all of them. -/
theorem readMany_run_of {read : Reader β} (got : α → β)
    (closed : ∀ a rest, follows rest → follows (write a ++ rest))
    (each : ∀ a rest, follows rest → read.run (write a ++ rest) = .ok (got a, rest))
    (items : List.Vector α n) {rest : Bytes} (after : follows rest) :
    (readMany read n).run (writeMany write items ++ rest) = .ok (items.map got, rest) := by
  induction items using List.Vector.inductionOn with
  | nil => rfl
  | cons ih =>
      rw [writeMany_cons, List.append_assoc, readMany, StateT.run_bind,
        each _ _ (follows_writeMany follows closed _ after), ok_bind, StateT.run_bind, ih, ok_bind,
        List.Vector.map_cons]
      rfl

theorem readMany_run {read : Reader α}
    (each : ∀ a rest, read.run (write a ++ rest) = .ok (a, rest))
    (items : List.Vector α n) (rest : Bytes) :
    (readMany read n).run (writeMany write items ++ rest) = .ok (items, rest) := by
  have reads := @readMany_run_of _ _ _ _ (fun _ => True) _ id (fun _ _ _ => trivial)
    (fun a rest _ => each a rest) items rest trivial
  rwa [List.Vector.map_id] at reads

end

/-- A counted array of items. -/
def readCounted (read : Reader α) : Reader (Counted α) := do
  let len ← readU32
  let items ← readMany read len.toNat
  pure { len, items }

/-- A single byte. -/
def readU8 : Reader UInt8 := fun bytes =>
  match bytes with
  | b :: rest => .ok (b, rest)
  | [] => .error .short

theorem readU8_many (items : List.Vector UInt8 n) (rest : Bytes) :
    (readMany readU8 n).run (items.toList ++ rest) = .ok (items, rest) := by
  have one : ∀ (b : UInt8) (rest : Bytes), readU8.run ([b] ++ rest) = .ok (b, rest) :=
    fun _ _ => rfl
  have reads := readMany_run one items rest
  rwa [writeMany, List.flatMap_singleton'] at reads

/-! A number lies at a multiple of its width, and a record takes a multiple of the width of its
widest number.
-/

/-- A field of a record: so many numbers of one width. -/
structure Field where
  name : String
  width : Nat
  count : Nat

/-- The next multiple. -/
def roundUp (n align : Nat) : Nat := (n + align - 1) / align * align

/-- The place behind a field that comes at a place. -/
def behind (place : Nat) (field : Field) : Nat :=
  roundUp place field.width + field.width * field.count

/-- The width of the widest number. -/
def alignment (fields : List Field) : Nat :=
  fields.foldl (fun align field => max align field.width) 1

/-- `sizeof` a record. -/
def byteSize (fields : List Field) : Nat := roundUp (fields.foldl behind 0) (alignment fields)

/-- A record as `memcpy` sees it. -/
abbrev Record (fields : List Field) := List.Vector UInt8 (byteSize fields)

/-- What was written of a value that fits reads as that value, of any other it stops
    the reader. -/
def Inverts (read : Reader α) (write : α → Bytes) (Fits : α → Prop) (e : Fault) : Prop :=
  ∀ a rest, Fits a ∧ read.run (write a ++ rest) = .ok (a, rest) ∨
    ¬Fits a ∧ read.run (write a ++ rest) = .error e

namespace Inverts

variable {read : Reader α} {write : α → Bytes} {Fits : α → Prop} {e : Fault}

theorem always (each : ∀ a rest, read.run (write a ++ rest) = .ok (a, rest)) :
    Inverts read write (fun _ => True) e :=
  fun a rest => .inl ⟨trivial, each a rest⟩

theorem reads_iff (inverts : Inverts read write Fits e) (a : α) (rest : Bytes) :
    read.run (write a ++ rest) = .ok (a, rest) ↔ Fits a := by
  rcases inverts a rest with ⟨fits, reads⟩ | ⟨misfit, stops⟩
  · exact iff_of_true reads fits
  · rw [stops]
    exact iff_of_false nofun misfit

theorem many (inverts : Inverts read write Fits e) :
    Inverts (readMany read n) (writeMany write) (fun items => ∀ a ∈ items.toList, Fits a) e := by
  intro items rest
  induction items using List.Vector.inductionOn with
  | nil => exact .inl ⟨nofun, rfl⟩
  | @cons _ a items ih =>
      beta_reduce
      rw [writeMany_cons, List.append_assoc, readMany, StateT.run_bind, List.Vector.toList_cons,
        List.forall_mem_cons]
      rcases inverts a (writeMany write items ++ rest) with ⟨fits, reads⟩ | ⟨misfit, stops⟩
      · rw [reads, ok_bind, StateT.run_bind]
        rcases ih with ⟨others, reads⟩ | ⟨misfit, stops⟩
        · rw [reads]
          exact .inl ⟨⟨fits, others⟩, rfl⟩
        · rw [stops]
          exact .inr ⟨fun both => misfit both.2, rfl⟩
      · rw [stops]
        exact .inr ⟨fun both => misfit both.1, rfl⟩

end Inverts

/-- There is something left to read. -/
def more : Reader Unit := fun bytes =>
  if bytes = [] then .error .outOfChunk else .ok ((), bytes)

@[simp] theorem more_run {bytes : Bytes} (left : bytes ≠ []) : more.run bytes = .ok ((), bytes) :=
  if_neg left

/-- Read the whole of the bytes. -/
def readAll (read : Reader α) (bytes : Bytes) : Except Fault α := do
  let (a, rest) ← read.run bytes
  check (rest = []) .mismatch
  pure a

theorem readAll_ok {read : Reader α} {bytes : Bytes} {a : α}
    (reads : read.run bytes = .ok (a, [])) : readAll read bytes = .ok a := by
  rw [readAll, reads]
  rfl

/-- Give the written bytes away when there are as many as announced. -/
def writeAll (sz : Nat) (written : Bytes) : Except Fault Bytes := do
  check (written.length = sz) .mismatch
  pure written

theorem writeAll_eq_ok {sz : Nat} {written bytes : Bytes} :
    writeAll sz written = .ok bytes ↔ written.length = sz ∧ written = bytes := by
  rw [writeAll, bind_eq_ok]
  simp

/-- Writes behind what there is already, into a chunk of a given size. -/
abbrev Writer := Nat → Bytes → Except Fault Bytes

namespace Writer

/-- Write these bytes. -/
def put (part : Bytes) : Writer := fun _ it => .ok (it ++ part)

/-- The place reached is inside the chunk. -/
def inside : Writer := fun sz it => do
  check (it.length < sz) .outOfChunk
  pure it

/-- One writer after the other. -/
def seq (first second : Writer) : Writer := fun sz it => first sz it >>= second sz

/-- A writer for each item. -/
def each (write : α → Writer) : List α → Writer
  | [] => put []
  | a :: as => seq (write a) (each write as)

/-- In a chunk that has room for them the writer adds just these bytes. -/
def Writes (w : Writer) (part : Bytes) : Prop :=
  ∀ sz it, it.length + part.length ≤ sz → w sz it = .ok (it ++ part)

theorem put_writes (part : Bytes) : (put part).Writes part := fun _ _ _ => rfl

theorem Writes.seq {first second : Writer} {p q : Bytes} (one : first.Writes p)
    (other : second.Writes q) : (first.seq second).Writes (p ++ q) := by
  intro sz it room
  rw [List.length_append, ← Nat.add_assoc] at room
  rw [Writer.seq, one sz it (by omega), ok_bind, other sz (it ++ p), List.append_assoc]
  rwa [List.length_append]

/-- A writer that adds something starts inside the chunk. -/
theorem Writes.inside {w : Writer} {part : Bytes} (writes : w.Writes part) (some : part ≠ []) :
    (Writer.inside.seq w).Writes part := by
  intro sz it room
  have adds : 0 < part.length := List.length_pos_iff.mpr some
  have here : it.length < sz := by omega
  rw [Writer.seq, Writer.inside, check_pass _ here, ok_bind]
  exact writes sz it room

theorem Writes.each {write : α → Writer} {bytes : α → Bytes}
    (one : ∀ a, (write a).Writes (bytes a)) (as : List α) :
    (Writer.each write as).Writes (as.flatMap bytes) := by
  induction as with
  | nil => exact put_writes []
  | cons a as ih => exact (one a).seq ih

end Writer

end FlexRic.Wire
