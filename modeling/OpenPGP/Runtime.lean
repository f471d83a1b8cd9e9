import Mathlib.Data.Nat.Digits
import Mathlib.Data.Nat.Size
import Mathlib.Data.String.Basic

/-! The Go runtime as the packet code sees it: error values and panics, calls
that update a receiver, `readFull` on a byte stream, and big-endian integers as
`encoding/binary` and `math/big` read and write them. -/

@[simp] theorem UInt8.toNat_ofNat' (n : Nat) : (UInt8.ofNat n).toNat = n % 256 := by
  simp [UInt8.ofNat, UInt8.toNat, BitVec.toNat_ofNat]

@[simp] theorem UInt8.ofNat_toNat' (b : UInt8) : UInt8.ofNat b.toNat = b :=
  UInt8.toNat.inj (by simp [UInt8.ofNat, UInt8.toNat, BitVec.toNat_ofNat])

theorem UInt8.eq_iff_toNat (a b : UInt8) : a = b ↔ a.toNat = b.toNat :=
  ⟨fun same => same ▸ rfl, UInt8.toNat.inj⟩

@[simp] theorem UInt8.toNat_toUInt16' (b : UInt8) : b.toUInt16.toNat = b.toNat := by
  simp [UInt8.toUInt16, UInt16.toNat, UInt8.toNat, UInt16.ofNat, BitVec.toNat_ofNat]

@[simp] theorem UInt16.toNat_ofNat' (n : Nat) : (UInt16.ofNat n).toNat = n % 65536 := by
  simp [UInt16.ofNat, UInt16.toNat, BitVec.toNat_ofNat]

@[simp] theorem UInt16.ofNat_toNat' (u : UInt16) : UInt16.ofNat u.toNat = u :=
  UInt16.toNat.inj (by simp [UInt16.ofNat, UInt16.toNat, BitVec.toNat_ofNat])

@[simp] theorem UInt64.toNat_ofNat' (n : Nat) : (UInt64.ofNat n).toNat = n % 2 ^ 64 := by
  simp [UInt64.ofNat, UInt64.toNat, BitVec.toNat_ofNat]

@[simp] theorem UInt64.ofNat_toNat' (u : UInt64) : UInt64.ofNat u.toNat = u :=
  UInt64.toNat.inj (by simp [UInt64.ofNat, UInt64.toNat, BitVec.toNat_ofNat])

@[simp] theorem UInt16.toNat_toUInt8' (u : UInt16) : u.toUInt8.toNat = u.toNat % 256 := by
  simp [UInt16.toUInt8, UInt8.toNat, UInt16.toNat, UInt8.ofNat, BitVec.toNat_ofNat]

@[simp] theorem UInt16.toNat_shiftRight_eight (u : UInt16) : (u >>> 8).toNat = u.toNat / 256 := by
  show (u.toBitVec >>> (8 % 16 : UInt16).toBitVec).toNat = _
  simp [BitVec.toNat_ushiftRight, Nat.shiftRight_eq_div_pow]
  rfl

@[simp] theorem Except.pure_eq_ok (a : α) : (pure a : Except ε α) = .ok a := rfl

@[simp] theorem Except.ok_bind (a : α) (f : α → Except ε β) : (Except.ok a >>= f) = f a := rfl

@[simp] theorem Except.error_bind (e : ε) (f : α → Except ε β) :
    (Except.error e >>= f) = Except.error e := rfl

theorem Except.bind_eq_ok {x : Except ε α} {f : α → Except ε β} {b : β} :
    x >>= f = .ok b ↔ ∃ a, x = .ok a ∧ f a = .ok b := by
  cases x <;> simp [bind, Except.bind]

theorem Except.bind_eq_error {x : Except ε α} {f : α → Except ε β} {e : ε} :
    x >>= f = .error e ↔ x = .error e ∨ ∃ a, x = .ok a ∧ f a = .error e := by
  cases x <;> simp [bind, Except.bind]

namespace OpenPGP

/-- A Go `[]byte`. -/
abbrev Bytes := List UInt8

/-- The error values the modelled code returns: the three kinds of
`openpgp/errors`, `io.ErrUnexpectedEOF`, and an `errors.New` text of the
standard library. -/
inductive Error where
  | StructuralError (msg : String)
  | UnsupportedError (msg : String)
  | InvalidArgumentError (msg : String)
  | ErrUnexpectedEOF
  | New (msg : String)
  deriving DecidableEq, Repr

/-- How a Go call ends when it does not return normally. A loop that never
ends is `diverge`. -/
inductive Fault where
  | error (err : Error)
  | panic (msg : String)
  | diverge
  deriving DecidableEq, Repr

/-- A call on a receiver of type `σ`, or one writing to a sink of type `σ`: it
returns, returns an error or panics, and leaves the receiver as the code had
put it at that moment. -/
abbrev Go (σ α : Type) := ExceptT Fault (StateM σ) α

/-- How a call ends from receiver `s`, and the receiver afterwards. -/
def Go.run (call : Go σ α) (s : σ) : Except Fault α × σ := StateT.run (ExceptT.run call) s

/-- `if err != nil { return err }`. -/
def Go.check (x : Except Error α) : Go σ α :=
  match x with
  | .ok a => pure a
  | .error err => throw (.error err)

/-- A step that may panic, run inside a call. -/
def Go.lift (x : Except Fault α) : Go σ α :=
  match x with
  | .ok a => pure a
  | .error fault => throw fault

/-- Dereferencing a nil pointer, interface or func value panics. -/
def deref (x : Option α) : Except Fault α :=
  match x with
  | some a => .ok a
  | none => .error (.panic "invalid memory address or nil pointer dereference")

/-- `w.Write(b)` on a writer that takes every byte. -/
def write (b : Bytes) : Go Bytes Unit := modify (· ++ b)

section Run

variable {σ α β : Type} (s : σ)

@[simp] theorem Go.run_pure (a : α) : Go.run (pure a : Go σ α) s = (.ok a, s) := rfl

@[simp] theorem Go.run_throw (fault : Fault) :
    Go.run (throw fault : Go σ α) s = (.error fault, s) := rfl

@[simp] theorem Go.run_get : Go.run (get : Go σ σ) s = (.ok s, s) := rfl

@[simp] theorem Go.run_set (t : σ) : Go.run (set t : Go σ PUnit) s = (.ok ⟨⟩, t) := rfl

@[simp] theorem Go.run_modify (f : σ → σ) :
    Go.run (modify f : Go σ PUnit) s = (.ok ⟨⟩, f s) := rfl

theorem Go.run_bind (x : Go σ α) (f : α → Go σ β) :
    Go.run (x >>= f) s =
      match Go.run x s with
      | (.ok a, t) => Go.run (f a) t
      | (.error fault, t) => (.error fault, t) := by
  simp only [Go.run, ExceptT.run_bind, StateT.run_bind]
  rcases StateT.run (ExceptT.run x) s with ⟨_ | _, _⟩ <;> rfl

@[simp] theorem Go.run_check_ok (a : α) : Go.run (Go.check (.ok a) : Go σ α) s = (.ok a, s) := rfl

@[simp] theorem Go.run_check_error (err : Error) :
    Go.run (Go.check (.error err) : Go σ α) s = (.error (.error err), s) := rfl

@[simp] theorem Go.run_lift (x : Except Fault α) : Go.run (Go.lift x : Go σ α) s = (x, s) := by
  cases x <;> rfl

@[simp] theorem Go.run_pure_bind (a : α) (f : α → Go σ β) :
    Go.run (pure a >>= f) s = Go.run (f a) s := rfl

@[simp] theorem Go.run_throw_bind (fault : Fault) (f : α → Go σ β) :
    Go.run (throw fault >>= f) s = (.error fault, s) := rfl

@[simp] theorem Go.run_get_bind (f : σ → Go σ β) : Go.run (get >>= f) s = Go.run (f s) s := rfl

@[simp] theorem Go.run_modify_bind (g : σ → σ) (f : PUnit → Go σ β) :
    Go.run (modify g >>= f) s = Go.run (f ⟨⟩) (g s) := rfl

@[simp] theorem Go.run_lift_bind (x : Except Fault α) (f : α → Go σ β) :
    Go.run (Go.lift x >>= f) s =
      match x with
      | .ok a => Go.run (f a) s
      | .error fault => (.error fault, s) := by
  cases x <;> rfl

@[simp] theorem Go.run_check_bind (x : Except Error α) (f : α → Go σ β) :
    Go.run (Go.check x >>= f) s =
      match x with
      | .ok a => Go.run (f a) s
      | .error err => (.error (.error err), s) := by
  cases x <;> rfl

@[simp] theorem deref_some (a : α) : deref (some a) = .ok a := rfl

@[simp] theorem deref_none : deref (none : Option α) =
    .error (.panic "invalid memory address or nil pointer dereference") := rfl

/-- A nil dereference panics; it never returns an error. -/
@[simp] theorem deref_ne_error (x : Option α) (e : Error) : deref x ≠ .error (.error e) := by
  cases x <;> simp

end Run

/-- A reader on a byte stream: it consumes a prefix of what is left or fails. -/
abbrev Reader (α : Type) := StateT Bytes (Except Error) α

/-- `readFull(r, buf)` with `len(buf) = n`: the next `n` bytes, or
`io.ErrUnexpectedEOF` when the stream ends first. -/
def readFull (n : Nat) : Reader Bytes := fun r =>
  if n ≤ r.length then .ok (r.take n, r.drop n) else .error .ErrUnexpectedEOF

theorem readFull_append {bs : Bytes} {n : Nat} (rest : Bytes) (length : bs.length = n) :
    readFull n (bs ++ rest) = .ok (bs, rest) := by
  subst length
  simp [readFull]

theorem readFull_short {r : Bytes} {n : Nat} (short : r.length < n) :
    readFull n r = .error .ErrUnexpectedEOF := by
  simp [readFull, Nat.not_le.mpr short]

/-- A successful read splits the stream into the bytes read and the rest. -/
theorem readFull_ok {r bs rest : Bytes} {n : Nat} (read : readFull n r = .ok (bs, rest)) :
    bs.length = n ∧ r = bs ++ rest := by
  unfold readFull at read
  split at read
  · cases read
    exact ⟨by simpa, (List.take_append_drop n r).symm⟩
  · cases read

/-- A call that returns got past each `if err != nil { return err }`. -/
theorem Go.run_check_bind_ok {x : Except Error α} {f : α → Go σ β} {s s' : σ} {b : β}
    (ran : Go.run (Go.check x >>= f) s = (.ok b, s')) : ∃ a, x = .ok a ∧ Go.run (f a) s = (.ok b, s') := by
  rcases x with err | a
  · simp at ran
  · exact ⟨a, rfl, ran⟩

/-- A call that returns got past each step that may panic. -/
theorem Go.run_lift_bind_ok {x : Except Fault α} {f : α → Go σ β} {s s' : σ} {b : β}
    (ran : Go.run (Go.lift x >>= f) s = (.ok b, s')) : ∃ a, x = .ok a ∧ Go.run (f a) s = (.ok b, s') := by
  rcases x with fault | a
  · simp at ran
  · exact ⟨a, rfl, ran⟩

/-- A call that fails either failed its `if err != nil { return err }` or got
past it. -/
theorem Go.run_check_bind_error {x : Except Error α} {f : α → Go σ β} {s s' : σ} {fault : Fault}
    (ran : Go.run (Go.check x >>= f) s = (.error fault, s')) :
    (∃ e, x = .error e ∧ fault = .error e ∧ s' = s) ∨
      ∃ a, x = .ok a ∧ Go.run (f a) s = (.error fault, s') := by
  rcases x with e | a
  · simp only [Go.run_check_bind, Prod.mk.injEq, Except.error.injEq] at ran
    obtain ⟨rfl, rfl⟩ := ran
    exact .inl ⟨e, rfl, rfl, rfl⟩
  · exact .inr ⟨a, rfl, ran⟩

/-- A call that panics got past each `if err != nil { return err }`. -/
theorem Go.run_check_bind_panic {x : Except Error α} {f : α → Go σ β} {s : σ} {p : String}
    (ran : (Go.run (Go.check x >>= f) s).1 = .error (.panic p)) :
    ∃ a, x = .ok a ∧ (Go.run (f a) s).1 = .error (.panic p) := by
  rcases x with err | a
  · simp at ran
  · exact ⟨a, rfl, ran⟩

/-- A call that ends other than with the `io.ErrUnexpectedEOF` of a short read
got past its `readFull`, which took `n` bytes off the front of the stream. -/
theorem Go.run_readFull_bind_of_ne {n : Nat} {r : Bytes} {f : Bytes × Bytes → Go σ β} {s s' : σ}
    {result : Except Fault β} (ran : Go.run (Go.check (readFull n r) >>= f) s = (result, s'))
    (notShort : result ≠ .error (.error .ErrUnexpectedEOF)) :
    ∃ bs rest, bs.length = n ∧ r = bs ++ rest ∧ Go.run (f (bs, rest)) s = (result, s') := by
  rcases read : readFull n r with err | ⟨bs, rest⟩
  · rw [read, Go.run_check_bind] at ran
    unfold readFull at read
    split at read <;> cases read
    exact absurd (Prod.mk.inj ran).1.symm notShort
  · rw [read, Go.run_check_bind] at ran
    obtain ⟨length, split⟩ := readFull_ok read
    exact ⟨bs, rest, length, split, ran⟩

theorem Go.run_readFull_bind {n : Nat} {r : Bytes} {f : Bytes × Bytes → Go σ β} {s s' : σ}
    {b : β} (ran : Go.run (Go.check (readFull n r) >>= f) s = (.ok b, s')) :
    ∃ bs rest, bs.length = n ∧ r = bs ++ rest ∧ Go.run (f (bs, rest)) s = (.ok b, s') :=
  Go.run_readFull_bind_of_ne ran nofun

/-- A reader can only take bytes off the front of the stream. -/
def Reader.Consumes (p : Reader α) : Prop :=
  ∀ r a rest, p r = .ok (a, rest) → ∃ pre, r = pre ++ rest

theorem readFull_consumes (n : Nat) : (readFull n).Consumes :=
  fun _ _ _ read => ⟨_, (readFull_ok read).2⟩

theorem Reader.Consumes.pure (a : α) : (pure a : Reader α).Consumes :=
  fun _ _ _ read => ⟨[], by cases read; rfl⟩

theorem Reader.Consumes.throw (err : Error) : (throw err : Reader α).Consumes :=
  fun _ _ _ read => by cases read

@[simp] theorem Reader.run_pure (a : α) (r : Bytes) : (pure a : Reader α) r = .ok (a, r) := rfl

theorem Reader.run_bind {α β : Type} (x : Reader α) (f : α → Reader β) (r : Bytes) :
    (x >>= f) r = match x r with
      | .ok (a, rest) => f a rest
      | .error err => .error err := by
  show (x r >>= fun p => f p.1 p.2) = _
  rcases x r with _ | ⟨_, _⟩ <;> rfl

theorem Reader.bind_eq_ok {q : Reader α} {g : α → Reader β} {B : Bytes} {b : β} {rest : Bytes} :
    (q >>= g) B = .ok (b, rest) ↔ ∃ a mid, q B = .ok (a, mid) ∧ g a mid = .ok (b, rest) := by
  rw [Reader.run_bind]
  rcases q B with err | ⟨a, mid⟩
  · simp
  · exact ⟨fun read => ⟨a, mid, rfl, read⟩, fun ⟨_, _, same, read⟩ => by cases same; exact read⟩

theorem Reader.bind_eq_error {q : Reader α} {g : α → Reader β} {B : Bytes} {e : Error}
    (failed : (q >>= g) B = .error e) :
    q B = .error e ∨ ∃ a mid, q B = .ok (a, mid) ∧ g a mid = .error e := by
  rw [Reader.run_bind] at failed
  rcases read : q B with err | ⟨a, mid⟩ <;> rw [read] at failed
  · exact .inl (by simpa using failed)
  · exact .inr ⟨a, mid, rfl, failed⟩

theorem Reader.Consumes.bind {p : Reader α} {f : α → Reader β} (first : p.Consumes)
    (second : ∀ a, (f a).Consumes) : (p >>= f).Consumes := by
  intro r b rest read
  rw [Reader.run_bind] at read
  split at read
  · obtain ⟨pre₂, rfl⟩ := second _ _ _ _ read
    obtain ⟨pre₁, rfl⟩ := first _ _ _ ‹_›
    exact ⟨pre₁ ++ pre₂, (List.append_assoc _ _ _).symm⟩
  · cases read

/-! Bytes and their integer values. -/

/-- `binary.BigEndian.Uint32`, `Uint64` and `new(big.Int).SetBytes`: the unsigned
big-endian value of a byte string. -/
def beValue (bs : Bytes) : Nat := bs.foldl (fun acc b => acc * 256 + b.toNat) 0

/-- `binary.BigEndian.PutUint32` and `PutUint64`: the low `width` bytes of `n`,
most significant first. -/
def beBytes : Nat → Nat → Bytes
  | 0, _ => []
  | width + 1, n => beBytes width (n / 256) ++ [UInt8.ofNat n]

@[simp] theorem beValue_nil : beValue [] = 0 := rfl

theorem beValue_append_byte (bs : Bytes) (b : UInt8) :
    beValue (bs ++ [b]) = beValue bs * 256 + b.toNat := by
  simp [beValue, List.foldl_append]

@[simp] theorem beBytes_length (width n : Nat) : (beBytes width n).length = width := by
  induction width generalizing n <;> simp [beBytes, *]

theorem beValue_beBytes (width n : Nat) : beValue (beBytes width n) = n % 256 ^ width := by
  induction width generalizing n with
  | zero => simp [beBytes, Nat.mod_one]
  | succ width ih =>
    rw [beBytes, beValue_append_byte, ih, UInt8.toNat_ofNat', Nat.pow_succ,
      Nat.mul_comm (256 ^ width) 256, Nat.mod_mul]
    ring

theorem beBytes_beValue (bs : Bytes) : beBytes bs.length (beValue bs) = bs := by
  induction bs using List.reverseRecOn with
  | nil => rfl
  | append_singleton bs b ih =>
    have low : (beValue bs * 256 + b.toNat) / 256 = beValue bs := by
      have := b.toNat_lt
      omega
    have last : UInt8.ofNat (beValue bs * 256 + b.toNat) = b :=
      UInt8.toNat.inj (by have := b.toNat_lt; simp; omega)
    rw [List.length_append, List.length_singleton, beBytes, beValue_append_byte, low, ih, last]

theorem beValue_lt (bs : Bytes) : beValue bs < 256 ^ bs.length := by
  induction bs using List.reverseRecOn with
  | nil => simp
  | append_singleton bs b ih =>
    rw [beValue_append_byte, List.length_append, List.length_singleton, Nat.pow_succ]
    have := b.toNat_lt
    nlinarith

end OpenPGP
