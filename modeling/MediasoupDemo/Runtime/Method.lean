import MediasoupDemo.Lib.ByteFile
import MediasoupDemo.Runtime.Basic

/-!
# Methods and file channels

A method of a Java object reads and writes the fields of the object and
returns or throws.  `Method σ α` is such a method on the fields `σ`.  What it
wrote before an exception stays written, as in Java.

A `FileChannel` is the open file behind a recording.  The file system decides
about every operation: `IoOutcome` says whether it does all that was asked,
writes fewer bytes, or fails after some bytes.
-/

namespace MediasoupDemo.Runtime

/-- A method of an object with fields `σ`. -/
abbrev Method (σ α : Type) := EStateM JavaException σ α

namespace Method

variable {σ α β : Type}

variable {x : Method σ α} {f : α → Method σ β} {body : Method σ Unit} {e : JavaException} {s s' : σ}
  (g : σ → σ) {a : α}

/-- Running a sequence whose first part returns. -/
theorem run_bind_ok (h : x.run s = .ok a s') (f : α → Method σ β) :
    (x >>= f).run s = (f a).run s' := by
  simp only [EStateM.run] at h
  simp [EStateM.run, bind, EStateM.bind, h]

/-- Running a sequence whose first part throws. -/
theorem run_bind_error (h : x.run s = .error e s') (f : α → Method σ β) :
    (x >>= f).run s = .error e s' := by
  simp only [EStateM.run] at h
  simp [EStateM.run, bind, EStateM.bind, h]

/-- The rest of a sequence sees only what the first part does. -/
theorem run_bind_congr {y : Method σ α} (h : x.run s = y.run s') (f : α → Method σ β) :
    (x >>= f).run s = (y >>= f).run s' := by
  simp only [EStateM.run] at h
  simp [EStateM.run, bind, EStateM.bind, h]

/-- A sequence returns only when both parts return. -/
theorem run_bind_eq_ok {s'' : σ} {b : β} (h : (x >>= f).run s = .ok b s'') :
    ∃ a s', x.run s = .ok a s' ∧ (f a).run s' = .ok b s'' := by
  cases hx : x.run s with
  | ok a s' => exact ⟨a, s', rfl, (run_bind_ok hx f).symm.trans h⟩
  | error e s' =>
    rw [run_bind_error hx] at h
    cases h

@[simp] theorem run_pure (a : α) (s : σ) : (pure a : Method σ α).run s = .ok a s := rfl

@[simp] theorem run_throw (e : JavaException) (s : σ) :
    (throw e : Method σ α).run s = .error e s := rfl

@[simp] theorem run_get_bind (f : σ → Method σ β) (s : σ) :
    (get >>= f).run s = (f s).run s := rfl

@[simp] theorem run_set (s s' : σ) : (set s' : Method σ Unit).run s = .ok () s' := rfl

@[simp] theorem run_set_bind (s s' : σ) (f : Unit → Method σ β) :
    (set s' >>= f).run s = (f ()).run s' := rfl

@[simp] theorem run_modify (s : σ) :
    (modify g : Method σ Unit).run s = .ok () (g s) := rfl

@[simp] theorem run_modify_bind (f : Unit → Method σ β) (s : σ) :
    (modify g >>= f).run s = (f ()).run (g s) := rfl

/-- A computation without state that returns. -/
theorem run_ofExcept_bind {x : Except JavaException α} (h : x = .ok a) (f : α → Method σ β)
    (s : σ) :
    ((MonadExcept.ofExcept x : Method σ α) >>= f).run s = (f a).run s := by
  subst h
  rfl

/-- A computation without state that throws. -/
theorem run_ofExcept_bind_error {x : Except JavaException α} (h : x = .error e) (f : α → Method σ β)
    (s : σ) :
    ((MonadExcept.ofExcept x : Method σ α) >>= f).run s = .error e s := by
  subst h
  rfl

theorem run_ofExcept_eq_ok {x : Except JavaException α}
    (h : (MonadExcept.ofExcept x : Method σ α).run s = .ok a s') : x = .ok a ∧ s' = s := by
  cases x with
  | error e => cases h
  | ok b =>
    cases h
    exact ⟨rfl, rfl⟩

/-- A sequence returns only when its first computation does. -/
theorem run_ofExcept_bind_eq_ok {x : Except JavaException α} {b : β}
    (h : ((MonadExcept.ofExcept x : Method σ α) >>= f).run s = .ok b s') :
    ∃ a, x = .ok a ∧ (f a).run s = .ok b s' := by
  obtain ⟨a, s₁, hfirst, hf⟩ := run_bind_eq_ok h
  obtain ⟨hx, rfl⟩ := run_ofExcept_eq_ok hfirst
  exact ⟨a, hx, hf⟩

/-- A computation without state returns only when both parts return. -/
theorem bind_eq_ok {x : Except JavaException α} {f : α → Except JavaException β} {b : β}
    (h : (x >>= f) = .ok b) : ∃ a, x = .ok a ∧ f a = .ok b := by
  cases x with
  | error e => cases h
  | ok a => exact ⟨a, rfl, h⟩

/-- `try { body } catch (IOException e) { handler }`. -/
def catchIoException (body : Method σ Unit) (handler : JavaException → Method σ Unit) :
    Method σ Unit :=
  tryCatch body fun e =>
    match e with
    | .io _ => handler e
    | .eof _ => handler e
    | .socket _ => handler e
    | _ => throw e

/-- A body that returns is not caught. -/
theorem run_catchIoException_ok (h : body.run s = .ok () s')
    (handler : JavaException → Method σ Unit) :
    (catchIoException body handler).run s = .ok () s' := by
  simp only [EStateM.run] at h
  simp [catchIoException, EStateM.run, tryCatch, tryCatchThe, MonadExceptOf.tryCatch,
    EStateM.tryCatch, h]

theorem run_catchIoException_illegalArgument {message : String}
    (h : body.run s = .error (.illegalArgument message) s')
    (handler : JavaException → Method σ Unit) :
    (catchIoException body handler).run s = .error (.illegalArgument message) s' := by
  simp only [EStateM.run] at h
  simp only [catchIoException, EStateM.run, tryCatch, tryCatchThe, MonadExceptOf.tryCatch,
    EStateM.tryCatch, h]
  rfl

/-- An exception goes to the handler or on to the caller. -/
theorem run_catchIoException_error (h : body.run s = .error e s')
    (handler : JavaException → Method σ Unit) :
    (catchIoException body handler).run s = (handler e).run s' ∨
      (catchIoException body handler).run s = .error e s' := by
  simp only [EStateM.run] at h
  simp only [catchIoException, EStateM.run, tryCatch, tryCatchThe, MonadExceptOf.tryCatch,
    EStateM.tryCatch, h]
  cases e <;> first | exact .inl rfl | exact .inr rfl

/-- `try { body } catch (Exception e) { handler }`. -/
def catchException (body : Method σ Unit) (handler : JavaException → Method σ Unit) :
    Method σ Unit :=
  tryCatch body handler

theorem run_catchException_ok (h : body.run s = .ok () s')
    (handler : JavaException → Method σ Unit) :
    (catchException body handler).run s = .ok () s' := by
  simp only [EStateM.run] at h
  simp [catchException, EStateM.run, tryCatch, tryCatchThe, MonadExceptOf.tryCatch,
    EStateM.tryCatch, h]

/-- What was written before the exception stays written. -/
theorem run_catchException_error (h : body.run s = .error e s')
    (handler : JavaException → Method σ Unit) :
    (catchException body handler).run s = (handler e).run s' := by
  simp only [EStateM.run] at h
  simp [catchException, EStateM.run, tryCatch, tryCatchThe, MonadExceptOf.tryCatch,
    EStateM.tryCatch, h, EStateM.Backtrackable.restore, EStateM.dummyRestore]

/-- The fields after a method, whether it has thrown or not. -/
def final (x : Method σ α) (s : σ) : σ :=
  match x.run s with
  | .ok _ s' => s'
  | .error _ s' => s'

/-- The run of a method of whose result something is known. -/
theorem exists_run_of_map_run' {f : α → β} {b : β} (h : (x.run' s).map f = some b) :
    ∃ a, x.run s = .ok a (final x s) ∧ f a = b := by
  delta EStateM.run' at h
  rw [final]
  cases hx : x.run s with
  | ok a s' =>
    rw [hx] at h
    exact ⟨a, rfl, Option.some.inj h⟩
  | error e s' =>
    rw [hx] at h
    cases h

/-- The exception that a method throws. -/
def thrown (x : Method σ α) (s : σ) : Option JavaException :=
  match x.run s with
  | .ok _ _ => none
  | .error e _ => some e

theorem final_bind_ok (h : x.run s = .ok a s') (f : α → Method σ β) :
    final (x >>= f) s = final (f a) s' := by
  rw [final, run_bind_ok h]
  rfl

theorem final_of_error (h : x.run s = .error e s') : final x s = s' := by
  rw [final, h]

/-- What a method leaves is read off its run. -/
theorem final_congr {y : Method σ α} (h : x.run s = y.run s') :
    final x s = final y s' := by
  rw [final, final, h]

theorem final_get_bind (f : σ → Method σ β) (s : σ) : final (get >>= f) s = final (f s) s := rfl

theorem final_set_bind (s s' : σ) (f : Unit → Method σ β) :
    final (set s' >>= f) s = final (f ()) s' := rfl

theorem final_modify_bind (f : Unit → Method σ β) (s : σ) :
    final (modify g >>= f) s = final (f ()) (g s) := rfl

theorem final_ofExcept_bind {x : Except JavaException α} (h : x = .ok a) (f : α → Method σ β)
    (s : σ) :
    final ((MonadExcept.ofExcept x : Method σ α) >>= f) s = final (f a) s := by
  rw [final, run_ofExcept_bind h]
  rfl

/-- A method whose exceptions are dropped returns. -/
theorem run_catchException_pure (x : Method σ Unit) (s : σ) :
    (catchException x fun _ => pure ()).run s = .ok () (final x s) := by
  unfold final
  cases hrun : x.run s with
  | ok a s' => rw [run_catchException_ok hrun]
  | error e s' => rw [run_catchException_error hrun, run_pure]

/-- What a `catch` block leaves. -/
theorem final_catchException (x : Method σ Unit) (handler : JavaException → Method σ Unit)
    (s : σ) :
    final (catchException x handler) s =
      match x.run s with
      | .ok _ s' => s'
      | .error e s' => final (handler e) s' := by
  cases hrun : x.run s with
  | ok a s' => rw [final, run_catchException_ok hrun]
  | error e s' =>
    rw [final, run_catchException_error hrun]
    rfl

/-! ## Methods of a part -/

section OnPart

variable {τ : Type} {part : σ → τ} {update : σ → τ → σ} {y : Method τ α} {t : τ}

/-- A method of an object that is a part of the fields. -/
def onPart (part : σ → τ) (update : σ → τ → σ) (y : Method τ α) : Method σ α := fun s =>
  match y.run (part s) with
  | .ok a t => .ok a (update s t)
  | .error e t => .error e (update s t)

theorem run_onPart (h : y.run (part s) = .ok a t) :
    (onPart part update y).run s = .ok a (update s t) := by
  show onPart part update y s = _
  rw [onPart, h]

theorem run_onPart_error (h : y.run (part s) = .error e t) :
    (onPart part update y).run s = .error e (update s t) := by
  show onPart part update y s = _
  rw [onPart, h]

theorem onPart_eq_ok (h : (onPart part update y).run s = .ok a s') :
    ∃ t, y.run (part s) = .ok a t ∧ s' = update s t := by
  cases hrun : y.run (part s) with
  | ok b t =>
    rw [run_onPart hrun] at h
    cases h
    exact ⟨t, rfl, rfl⟩
  | error e t =>
    rw [run_onPart_error hrun] at h
    cases h

theorem final_onPart (y : Method τ α) (s : σ) :
    final (onPart part update y) s = update s (final y (part s)) := by
  unfold final
  cases h : y.run (part s) with
  | ok a t => rw [run_onPart h]
  | error e t => rw [run_onPart_error h]

end OnPart

/-! ## Methods that return -/

/-- The method throws nothing. -/
def Returns (x : Method σ α) (s : σ) : Prop := ∃ a s', x.run s = .ok a s'

theorem thrown_eq_none_iff : thrown x s = none ↔ Returns x s := by
  rw [thrown, Returns]
  cases x.run s with
  | ok a s' => simp
  | error e s' => simp

@[simp] theorem returns_pure (a : α) (s : σ) : Returns (pure a : Method σ α) s := ⟨a, s, rfl⟩

@[simp] theorem not_returns_throw (e : JavaException) (s : σ) :
    ¬ Returns (throw e : Method σ α) s := by
  rintro ⟨a, s', h⟩
  cases h

@[simp] theorem returns_modify (s : σ) : Returns (modify g : Method σ Unit) s :=
  ⟨(), g s, rfl⟩

/-- A sequence returns if both parts do. -/
theorem returns_bind :
    Returns (x >>= f) s ↔ ∃ a s', x.run s = .ok a s' ∧ Returns (f a) s' := by
  constructor
  · rintro ⟨b, s'', h⟩
    obtain ⟨a, s', hx, hf⟩ := run_bind_eq_ok h
    exact ⟨a, s', hx, b, s'', hf⟩
  · rintro ⟨a, s', hx, b, s'', hf⟩
    exact ⟨b, s'', (run_bind_ok hx f).trans hf⟩

theorem returns_bind_ok (h : x.run s = .ok a s') : Returns (x >>= f) s ↔ Returns (f a) s' := by
  rw [Returns, Returns, run_bind_ok h]

/-- The second part of a sequence may return always. -/
theorem returns_bind_iff (hf : ∀ a s, Returns (f a) s) : Returns (x >>= f) s ↔ Returns x s := by
  rw [returns_bind]
  constructor
  · exact fun ⟨a, s', hx, _⟩ => ⟨a, s', hx⟩
  · exact fun ⟨a, s', hx⟩ => ⟨a, s', hx, hf a s'⟩

@[simp] theorem returns_get_bind (f : σ → Method σ β) (s : σ) :
    Returns (get >>= f) s ↔ Returns (f s) s := Iff.rfl

@[simp] theorem returns_set_bind (s s' : σ) (f : Unit → Method σ β) :
    Returns (set s' >>= f) s ↔ Returns (f ()) s' := Iff.rfl

@[simp] theorem returns_modify_bind (f : Unit → Method σ β) (s : σ) :
    Returns (modify g >>= f) s ↔ Returns (f ()) (g s) := Iff.rfl

theorem returns_ofExcept_bind {x : Except JavaException α} :
    Returns ((MonadExcept.ofExcept x : Method σ α) >>= f) s ↔
      ∃ a, x = .ok a ∧ Returns (f a) s := by
  constructor
  · rintro ⟨b, s', h⟩
    obtain ⟨a, hx, hf⟩ := run_ofExcept_bind_eq_ok h
    exact ⟨a, hx, b, s', hf⟩
  · rintro ⟨a, hx, b, s', hf⟩
    exact ⟨b, s', (run_ofExcept_bind hx f s).trans hf⟩

/-! ## Invariants of methods -/

section Preserves

variable {P : σ → Prop}

/-- The method keeps `P`, whether it throws or not. -/
def Preserves (P : σ → Prop) (x : Method σ α) : Prop := ∀ s, P s → P (final x s)

theorem Preserves.final_of (hx : Preserves P x) (h : P s) :
    P (final x s) :=
  hx s h

theorem Preserves.of_ok (hx : Preserves P x) (h : P s) (hrun : x.run s = .ok a s') : P s' := by
  have hfinal := hx s h
  rwa [final, hrun] at hfinal

theorem preserves_pure (a : α) : Preserves P (pure a : Method σ α) := fun _ h => h

theorem preserves_throw (e : JavaException) : Preserves P (throw e : Method σ α) := fun _ h => h

theorem preserves_ofExcept (x : Except JavaException α) :
    Preserves P (MonadExcept.ofExcept x : Method σ α) := by
  cases x <;> exact fun _ h => h

theorem preserves_modify {g : σ → σ} (h : ∀ s, P s → P (g s)) :
    Preserves P (modify g : Method σ Unit) := h

theorem preserves_get_bind {f : σ → Method σ α} (h : ∀ s, P s → P (final (f s) s)) :
    Preserves P (get >>= f) := h

/-- What holds after both methods, and after an exception of the first. -/
theorem final_bind_cases (hok : ∀ a s', x.run s = .ok a s' → P (final (f a) s'))
    (herror : ∀ e s', x.run s = .error e s' → P s') : P (final (x >>= f) s) := by
  cases hrun : x.run s with
  | ok a s' =>
    rw [final_bind_ok hrun]
    exact hok a s' hrun
  | error e s' =>
    rw [final_of_error (run_bind_error hrun f)]
    exact herror e s' hrun

/-- What holds before a computation without state, and after what follows. -/
theorem final_ofExcept_bind_of {x : Except JavaException α} (h : P s)
    (hok : ∀ a, x = .ok a → P (final (f a) s)) :
    P (final ((MonadExcept.ofExcept x : Method σ α) >>= f) s) := by
  cases x with
  | error e => exact h
  | ok a => exact hok a rfl

/-- What holds after the first method holds after both, if the second keeps it. -/
theorem final_bind_of (hx : P (final x s)) (hf : ∀ a, Preserves P (f a)) :
    P (final (x >>= f) s) := by
  refine final_bind_cases (fun a s' hrun => hf a s' ?_) fun e s' hrun => ?_
  · rwa [final, hrun] at hx
  · rwa [final, hrun] at hx

theorem Preserves.bind (hx : Preserves P x) (hf : ∀ a, Preserves P (f a)) : Preserves P (x >>= f) :=
  fun s h => final_bind_of (hx s h) hf

theorem Preserves.catchIoException {handler : JavaException → Method σ Unit}
    (hbody : Preserves P body) (hhandler : ∀ e, Preserves P (handler e)) :
    Preserves P (catchIoException body handler) := by
  intro s h
  have hfirst := hbody s h
  cases hrun : body.run s with
  | ok a s' =>
    rw [final, hrun] at hfirst
    rw [final, run_catchIoException_ok hrun]
    exact hfirst
  | error e s' =>
    rw [final_of_error hrun] at hfirst
    cases run_catchIoException_error hrun handler with
    | inl hcaught =>
      rw [final, hcaught]
      exact hhandler e s' hfirst
    | inr hthrown =>
      rw [final_of_error hthrown]
      exact hfirst

/-- What holds after the body holds after the `catch` block, if that keeps it. -/
theorem final_catchException_of {handler : JavaException → Method σ Unit} (hbody : P (final body s))
    (hhandler : ∀ e, Preserves P (handler e)) :
    P (final (catchException body handler) s) := by
  rw [final_catchException]
  rw [final] at hbody
  cases hrun : body.run s with
  | ok a s' =>
    rw [hrun] at hbody
    exact hbody
  | error e s' =>
    rw [hrun] at hbody
    exact hhandler e s' hbody

end Preserves

end Method

/-- What the file system does with one operation. -/
inductive IoOutcome where
  /-- all that was asked -/
  | done
  /-- a write of at most this many bytes -/
  | short (bytes : Nat)
  /-- an `IOException` after at most this many bytes -/
  | failed (bytes : Nat)

/-- `java.nio.channels.FileChannel`. -/
structure FileChannel where
  file : ByteFile
  isOpen : Bool
  deriving DecidableEq

namespace FileChannel

/-- The channel of a new file. -/
def create : FileChannel := { file := ByteFile.empty, isOpen := true }

/-- `ClosedChannelException` is an `IOException`. -/
def closedChannel : JavaException := .io "ClosedChannelException"

/-- `write(src)`: the number of bytes written, and the channel. -/
def write (fc : FileChannel) (outcome : IoOutcome) (src : List UInt8) :
    Except JavaException Nat × FileChannel :=
  if fc.isOpen then
    match outcome with
    | .done => (.ok src.length, { fc with file := fc.file.write src })
    | .short n => (.ok (src.take n).length, { fc with file := fc.file.write (src.take n) })
    | .failed n => (.error (.io "write"), { fc with file := fc.file.write (src.take n) })
  else (.error closedChannel, fc)

/-- `position()`. -/
def getPosition (fc : FileChannel) (outcome : IoOutcome) :
    Except JavaException Nat × FileChannel :=
  if fc.isOpen then
    match outcome with
    | .failed _ => (.error (.io "position"), fc)
    | _ => (.ok fc.file.position, fc)
  else (.error closedChannel, fc)

/-- `position(newPosition)`. -/
def setPosition (fc : FileChannel) (outcome : IoOutcome) (newPosition : Nat) :
    Except JavaException Unit × FileChannel :=
  if fc.isOpen then
    match outcome with
    | .failed _ => (.error (.io "position"), fc)
    | _ => (.ok (), { fc with file := fc.file.seek newPosition })
  else (.error closedChannel, fc)

/-- `close()`: a second close has no effect. -/
def close (fc : FileChannel) (outcome : IoOutcome) : Except JavaException Unit × FileChannel :=
  match outcome with
  | .failed _ => (.error (.io "close"), { fc with isOpen := false })
  | _ => (.ok (), { fc with isOpen := false })

end FileChannel

end MediasoupDemo.Runtime
