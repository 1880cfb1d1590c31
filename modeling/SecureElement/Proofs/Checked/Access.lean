import SecureElement.Proofs.ByteStrings
import SecureElement.Proofs.Contracts

/-!
Accesses that are checked.

The definitions of the stack take a byte that is not there for zero, and their
numbers have no bounds. Here an access that no machine could make is a fault
(`Fault`): a number that is too large, an index or a range outside of a buffer, or a
copy between strings of different lengths. A checked definition makes the same
accesses as the program, in the same order, and is proved equal to the plain one
wherever that is used: so no access faults (`Agrees`).

What becomes of a sum that is too large for its type depends on how the program is
built: it is a fault or wraps around (`Build`). The checked definitions take it for a
fault, so what is proved not to fault is so in either build. The builds differ where a
caller can name a number close to the greatest there is, and there are two such places.
A packet is protected by its length: `Session.checkedProtect` is said for lengths that a
buffer can have, where the builds agree, and `Session.protectWord` wraps around and is
said for all lengths. A bit of a response is flipped at an index: `Chip.checkedStartPoll`
is said for both builds.
-/

namespace SecureElement

/-- What is wrong with an access. -/
inductive Fault where
  /-- A sum that is too large for its type, or a difference below zero. -/
  | overflow
  /-- An index or a range that is not within the buffer. -/
  | bounds
  /-- A copy between strings of different lengths. -/
  | length
deriving DecidableEq, Repr

/-- A value, unless there is a fault on the way to it. -/
abbrev Checked := Except Fault

/-- How a program is built: sums that are too large are faults, or they wrap around. -/
inductive Build where
  | checking
  | wrapping
deriving DecidableEq, Repr

namespace Checked

/-! ### Accesses -/

/-- The sum of two numbers of `width` bits. -/
def add (width a b : Nat) : Checked Nat :=
  if a + b < 2 ^ width then .ok (a + b) else .error .overflow

/-- The difference of two numbers. -/
def sub (a b : Nat) : Checked Nat :=
  if b ≤ a then .ok (a - b) else .error .overflow

/-- The number behind a counter of 32 bits. -/
def succ (counter : UInt32) : Checked UInt32 :=
  if counter = 0xFFFFFFFF then .error .overflow else .ok (counter + 1)

/-- The byte at an index. -/
def byte (bytes : Bytes) (index : Nat) : Checked UInt8 :=
  if index < bytes.length then .ok (bytes.getD index 0) else .error .bounds

/-- The bytes from `start` to `stop`. -/
def part (bytes : Bytes) (start stop : Nat) : Checked Bytes :=
  if start ≤ stop ∧ stop ≤ bytes.length then .ok (bytes.slice start (stop - start))
  else .error .bounds

/-- The bytes before an index and those from it on. -/
def split (bytes : Bytes) (index : Nat) : Checked (Bytes × Bytes) :=
  if index ≤ bytes.length then .ok (bytes.take index, bytes.drop index) else .error .bounds

/-- The bytes as a string of `n` bytes. -/
def fixed (n : Nat) (bytes : Bytes) : Checked (Octets n) :=
  match Octets.ofBytes? n bytes with
  | some octets => .ok octets
  | none => .error .length

/-- The buffer with a byte replaced. -/
def put (bytes : Bytes) (index : Nat) (value : UInt8) : Checked Bytes :=
  if index < bytes.length then .ok (bytes.overlay index [value]) else .error .bounds

/-- The buffer with the bytes from `start` to `stop` replaced by as many. -/
def copy (bytes : Bytes) (start stop : Nat) (piece : Bytes) : Checked Bytes :=
  if start ≤ stop ∧ stop ≤ bytes.length then
    if piece.length = stop - start then .ok (bytes.overlay start piece) else .error .length
  else .error .bounds

/-- The buffer with the bytes from `start` to `stop` set to a value. -/
def fill (bytes : Bytes) (start stop : Nat) (value : UInt8) : Checked Bytes :=
  copy bytes start stop (List.replicate (stop - start) value)

@[simp] theorem ok_bind {α β : Type} (a : α) (next : α → Checked β) :
    (Except.ok a : Checked α) >>= next = next a := rfl

section

variable {width a b start stop index : Nat} {bytes piece : Bytes} {value : UInt8}

theorem add_eq (small : a + b < 2 ^ width) : add width a b = .ok (a + b) := if_pos small

theorem sub_eq (le : b ≤ a) : sub a b = .ok (a - b) := if_pos le

theorem succ_eq {counter : UInt32} (more : counter ≠ 0xFFFFFFFF) :
    succ counter = .ok (counter + 1) := if_neg more

theorem byte_eq (inside : index < bytes.length) : byte bytes index = .ok (bytes.getD index 0) :=
  if_pos inside

theorem part_eq (order : start ≤ stop) (inside : stop ≤ bytes.length) :
    part bytes start stop = .ok (bytes.slice start (stop - start)) := if_pos ⟨order, inside⟩

theorem split_eq (inside : index ≤ bytes.length) :
    split bytes index = .ok (bytes.take index, bytes.drop index) := if_pos inside

theorem fixed_val {n : Nat} (octets : Octets n) : fixed n octets.val = .ok octets := by
  rw [fixed, Octets.ofBytes?_val]

theorem put_eq (inside : index < bytes.length) :
    put bytes index value = .ok (bytes.overlay index [value]) := if_pos inside

theorem copy_eq (same : piece.length = stop - start) (order : start ≤ stop)
    (inside : stop ≤ bytes.length) :
    copy bytes start stop piece = .ok (bytes.overlay start piece) := by
  rw [copy, if_pos ⟨order, inside⟩, if_pos same]

theorem fill_eq (order : start ≤ stop) (inside : stop ≤ bytes.length) :
    fill bytes start stop value =
      .ok (bytes.overlay start (List.replicate (stop - start) value)) :=
  copy_eq List.length_replicate order inside

end

/-- The sum of two numbers of `width` bits, as it is made in a build. -/
def sum (build : Build) (width a b : Nat) : Checked Nat :=
  match build with
  | .checking => add width a b
  | .wrapping => .ok ((a + b) % 2 ^ width)

/-- Where the sum fits, the build makes no difference. -/
theorem sum_eq {build : Build} {width a b : Nat} (fits : build = .checking → a + b < 2 ^ width) :
    sum build width a b = .ok ((a + b) % 2 ^ width) := by
  cases build with
  | checking => exact (add_eq (fits rfl)).trans (congrArg _ (Nat.mod_eq_of_lt (fits rfl)).symm)
  | wrapping => rfl

/-! Where a condition does not hold, there is a fault. -/

example : add 64 (2 ^ 64 - 1) 1 = .error .overflow := rfl

example : part [1, 2] 1 3 = .error .bounds := rfl

example : copy [0, 0, 0] 0 2 [1] = .error .length := rfl

end Checked

/-! ### Actions -/

/-- Actions that may fail, or fault. -/
abbrev CheckedM (s ε : Type) := ExceptT ε (StateT s Checked)

section

variable {ε s α β : Type}

/-- The outcome of an action from a state and the state after it, unless there is a
fault. -/
def trial (act : CheckedM s ε α) (before : s) : Checked (Except ε α × s) :=
  act.run.run before

namespace CheckedM

/-- An action that makes no accesses of its own. -/
def plain (act : ExceptT ε (StateM s) α) : CheckedM s ε α :=
  ExceptT.mk fun before => .ok (perform act before)

/-- Reads from the state. -/
def look (read : s → Checked α) : CheckedM s ε α :=
  ExceptT.mk fun before => (read before).map fun a => (.ok a, before)

/-- Changes the state. -/
def change (write : s → Checked s) : CheckedM s ε Unit :=
  ExceptT.mk fun before => (write before).map fun after => (.ok (), after)

end CheckedM

/-- From a state with `P`, the checked action does not fault and does what the
action does. -/
def Agrees (P : s → Prop) (checked : CheckedM s ε α) (act : ExceptT ε (StateM s) α) : Prop :=
  ∀ before, P before → trial checked before = .ok (perform act before)

theorem trial_bind (act : CheckedM s ε α) (next : α → CheckedM s ε β) (before : s) :
    trial (act >>= next) before =
      match trial act before with
      | .error fault => .error fault
      | .ok (.ok a, after) => trial (next a) after
      | .ok (.error e, after) => .ok (.error e, after) := by
  change (act.run >>= ExceptT.bindCont next).run before = _
  rw [StateT.run_bind]
  unfold trial
  rcases act.run.run before with _ | ⟨_ | _, after⟩
  · rfl
  · rfl
  · rfl

theorem trial_tryCatch (act : CheckedM s ε α) (handler : ε → CheckedM s ε α) (before : s) :
    trial (tryCatch act handler) before =
      match trial act before with
      | .error fault => .error fault
      | .ok (.ok a, after) => .ok (.ok a, after)
      | .ok (.error e, after) => trial (handler e) after := by
  change (act.run >>= fun result => match result with
    | .ok a => pure (.ok a)
    | .error e => (handler e).run).run before = _
  rw [StateT.run_bind]
  unfold trial
  rcases act.run.run before with _ | ⟨_ | _, after⟩
  · rfl
  · rfl
  · rfl

namespace Agrees

variable {P : s → Prop} {Q : α → Prop} {E : ε → Prop} {checked : CheckedM s ε α}
  {act : ExceptT ε (StateM s) α}

theorem plain (act : ExceptT ε (StateM s) α) : Agrees P (.plain act) act := fun _ _ => rfl

theorem pure (a : α) : Agrees P (pure a) (pure a : ExceptT ε (StateM s) α) := fun _ _ => rfl

theorem throw (e : ε) : Agrees P (throw e) (throw e : ExceptT ε (StateM s) α) := fun _ _ => rfl

theorem bind {checked' : α → CheckedM s ε β} {next : α → ExceptT ε (StateM s) β}
    (first : Agrees P checked act) (contract : Contract P Q E act)
    (rest : ∀ a, Q a → Agrees P (checked' a) (next a)) :
    Agrees P (checked >>= checked') (act >>= next) := by
  intro before held
  rw [trial_bind, first before held, perform_bind]
  rcases performed : perform act before with ⟨e | a, after⟩
  · rfl
  · exact rest a (contract.returned held performed) after (contract.kept held performed)

theorem tryCatch {handler' : ε → CheckedM s ε α} {handler : ε → ExceptT ε (StateM s) α}
    (first : Agrees P checked act) (contract : Contract P Q E act)
    (rest : ∀ e, E e → Agrees P (handler' e) (handler e)) :
    Agrees P (tryCatch checked handler') (tryCatch act handler) := by
  intro before held
  rw [trial_tryCatch, first before held, perform_tryCatch]
  rcases performed : perform act before with ⟨e | a, after⟩
  · exact rest e (contract.failed held performed) after (contract.kept held performed)
  · rfl

theorem ite {condition : Prop} [Decidable condition] {left' right' : CheckedM s ε α}
    {left right : ExceptT ε (StateM s) α} (first : condition → Agrees P left' left)
    (second : ¬condition → Agrees P right' right) :
    Agrees P (if condition then left' else right') (if condition then left else right) := by
  split
  · exact first ‹_›
  · exact second ‹_›

theorem calc_pure {x : Checked α} {a : α} (sum : x = .ok a) :
    Agrees P (.look fun _ => x) (Pure.pure a : ExceptT ε (StateM s) α) := by
  intro before _
  rw [sum]
  rfl

/-- What is read does not fault if the plain action can do without reading it. -/
theorem calc_bind {x : Checked β} {b : β} {rest : β → CheckedM s ε α} (sum : x = .ok b)
    (agrees : Agrees P (rest b) act) : Agrees P (.look (fun _ => x) >>= rest) act := by
  intro before held
  rw [trial_bind, sum]
  exact agrees before held

/-- What is read from the state is a function of it that the plain action uses. -/
theorem look_bind {read : s → Checked β} {value : s → β} {rest : β → CheckedM s ε α}
    {next : s → ExceptT ε (StateM s) α}
    (reads : ∀ before, P before → read before = .ok (value before))
    (agrees : ∀ before, P before → Agrees P (rest (value before)) (next before)) :
    Agrees P (.look read >>= rest) (get >>= next) := by
  intro before held
  have looked : trial (.look read : CheckedM s ε β) before = .ok (.ok (value before), before) := by
    change (read before).map _ = _
    rw [reads before held]
    rfl
  rw [trial_bind, looked]
  exact agrees before held before held

theorem change {write : s → Checked s} {update : s → s}
    (writes : ∀ before, P before → write before = .ok (update before)) :
    Agrees P (.change write : CheckedM s ε Unit) (modify update) := by
  intro before held
  change (write before).map _ = _
  rw [writes before held]
  rfl

end Agrees

end

end SecureElement
