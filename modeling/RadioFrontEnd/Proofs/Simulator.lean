import RadioFrontEnd.Proofs.Access
import RadioFrontEnd.Proofs.RegisterMap
import RadioFrontEnd.Simulator

/-!
# What the operations of the simulated front end do

One lemma for each operation says what it yields on an open device and on a closed one.  After them
nothing about the simulated device is unfolded any more: a register write is `store`, a read of a
status register is `clearFlags`, and the rest of the theory knows these two by what they do to the
content of a register (`peek_store`, `peek_clearFlags`) and to the log (`writesTo_store`).
-/

namespace RadioFrontEnd.Simulator

open RadioFrontEnd.Action

variable {s : Simulator}

/-! ## Loads, stores and cleared flags -/

/-- The device after a register write: the register holds the value, and the log has one more
entry. -/
def store (s : Simulator) (a v : UInt32) : Simulator :=
  { s.load a v with writeLog := s.writeLog ++ [(a, v)] }

@[simp] theorem store_writeLog (s : Simulator) (a v : UInt32) :
    (s.store a v).writeLog = s.writeLog ++ [(a, v)] := rfl

theorem peek_store (s : Simulator) (a b v : UInt32) :
    (s.store a v).peek b = if a = b then v else s.peek b :=
  peek_load s a b v

@[simp] theorem peek_store_self (s : Simulator) (a v : UInt32) : (s.store a v).peek a = v := by
  rw [peek_store, if_pos rfl]

theorem peek_store_of_ne (s : Simulator) {a b : UInt32} (h : a ≠ b) (v : UInt32) :
    (s.store a v).peek b = s.peek b := by
  rw [peek_store, if_neg h]

theorem writesTo_store (s : Simulator) (a b v : UInt32) :
    (s.store a v).writesTo b = if a = b then s.writesTo b ++ [v] else s.writesTo b := by
  rw [writesTo, store_writeLog, List.filter_append, List.map_append, writesTo]
  by_cases h : a = b
  · simp [h]
  · simp [h]

/-- The device after a read of a status register: the flags of the register are gone. -/
def clearFlags (s : Simulator) (a : UInt32) : Simulator :=
  s.load a (s.peek a &&& ~~~Fifo.Status.flagBits)

theorem peek_clearFlags (s : Simulator) (a b : UInt32) :
    (s.clearFlags a).peek b =
      if a = b then s.peek a &&& ~~~Fifo.Status.flagBits else s.peek b :=
  peek_load s a b _

theorem peek_clearFlags_of_ne (s : Simulator) {a b : UInt32} (h : a ≠ b) :
    (s.clearFlags a).peek b = s.peek b := by
  rw [peek_clearFlags, if_neg h]

theorem peek_fresh (map : RegisterMap) (a : UInt32) : (fresh map).peek a = 0 := rfl

/-! ## Several stores -/

/-- The device after some register writes, each an address and a value. -/
def storeAll (s : Simulator) (entries : List (UInt32 × UInt32)) : Simulator :=
  entries.foldl (fun s e => s.store e.1 e.2) s

/-- The values of those writes that go to an address. -/
def valuesAt (a : UInt32) (entries : List (UInt32 × UInt32)) : List UInt32 :=
  (entries.filter (·.1 == a)).map (·.2)

theorem storeAll_append (s : Simulator) (es fs : List (UInt32 × UInt32)) :
    s.storeAll (es ++ fs) = (s.storeAll es).storeAll fs :=
  List.foldl_append

@[simp] theorem isOpen_storeAll (s : Simulator) (es : List (UInt32 × UInt32)) :
    (s.storeAll es).isOpen = s.isOpen := by
  induction es generalizing s with
  | nil => rfl
  | cons e es ih => exact ih (s.store e.1 e.2)

/-- The log has the writes behind what it had. -/
theorem writeLog_storeAll (s : Simulator) (es : List (UInt32 × UInt32)) :
    (s.storeAll es).writeLog = s.writeLog ++ es := by
  induction es generalizing s with
  | nil => exact (List.append_nil _).symm
  | cons e es ih =>
    calc ((s.store e.1 e.2).storeAll es).writeLog
        = s.writeLog ++ [e] ++ es := ih (s.store e.1 e.2)
      _ = s.writeLog ++ e :: es := by simp

theorem writesTo_storeAll (s : Simulator) (es : List (UInt32 × UInt32)) (a : UInt32) :
    (s.storeAll es).writesTo a = s.writesTo a ++ valuesAt a es := by
  rw [writesTo, writeLog_storeAll, List.filter_append, List.map_append]
  rfl

/-- **A register holds what was written to it last**, or what it held if nothing was. -/
theorem peek_storeAll (s : Simulator) (es : List (UInt32 × UInt32)) (a : UInt32) :
    (s.storeAll es).peek a = (valuesAt a es).getLast?.getD (s.peek a) := by
  induction es generalizing s with
  | nil => rfl
  | cons e es ih =>
    have hrest := ih (s.store e.1 e.2)
    by_cases h : e.1 = a
    · have hvalues : valuesAt a (e :: es) = e.2 :: valuesAt a es := by simp [valuesAt, h]
      rw [hvalues, List.getLast?_cons, Option.getD_some]
      rwa [peek_store, if_pos h] at hrest
    · have hvalues : valuesAt a (e :: es) = valuesAt a es := by simp [valuesAt, h]
      rw [hvalues]
      rwa [peek_store, if_neg h] at hrest

/-! ## Registers -/

theorem yields_readRegister_of_status (hopen : s.isOpen = true) {a : UInt32}
    (ha : s.map.isStatus a = .ok true) :
    (FrontEnd.readRegister a : Action Simulator UInt32).Yields s (s.peek a) (s.clearFlags a) := by
  refine (yields_get s).bind ?_
  rw [if_pos hopen]
  refine (yields_ofExcept ha s).bind ?_
  rw [if_pos rfl]
  exact (yields_set s (s.clearFlags a)).bind (yields_pure (s.peek a) (s.clearFlags a))

theorem yields_readRegister_of_plain (hopen : s.isOpen = true) {a : UInt32}
    (ha : s.map.isStatus a = .ok false) :
    (FrontEnd.readRegister a : Action Simulator UInt32).Yields s (s.peek a) s := by
  refine (yields_get s).bind ?_
  rw [if_pos hopen]
  refine (yields_ofExcept ha s).bind ?_
  rw [if_neg Bool.false_ne_true]
  exact yields_pure (s.peek a) s

/-- A read that cannot tell whether its address is a status register stops with nothing changed. -/
theorem faults_readRegister (hopen : s.isOpen = true) {a : UInt32} {fault : Fault}
    (ha : s.map.isStatus a = .error fault) :
    (FrontEnd.readRegister a : Action Simulator UInt32).Faults s fault s := by
  refine (yields_get s).bind_faults ?_
  rw [if_pos hopen]
  exact (faults_ofExcept ha s).bind _

/-- Two devices that differ at most in the content of one register. -/
structure AgreesOff (a : UInt32) (s t : Simulator) : Prop where
  /-- The register maps are equal. -/
  map_eq : t.map = s.map
  /-- Both devices are open, or both are closed. -/
  isOpen_eq : t.isOpen = s.isOpen
  /-- The windows are equal. -/
  window_eq : t.window = s.window
  /-- The logs are equal. -/
  writeLog_eq : t.writeLog = s.writeLog
  /-- Every other register has the same content. -/
  peek_eq : ∀ b, b ≠ a → t.peek b = s.peek b

theorem AgreesOff.refl (a : UInt32) (s : Simulator) : AgreesOff a s s :=
  ⟨rfl, rfl, rfl, rfl, fun _ _ => rfl⟩

theorem agreesOff_clearFlags (s : Simulator) (a : UInt32) : AgreesOff a s (s.clearFlags a) :=
  ⟨rfl, rfl, rfl, rfl, fun _ hb => peek_clearFlags_of_ne s (Ne.symm hb)⟩

/-- Whatever the address, a read gives the content and changes no other register. -/
theorem exists_yields_readRegister (hopen : s.isOpen = true) (hstatus : s.map.HasStatus)
    (a : UInt32) :
    ∃ t, (FrontEnd.readRegister a : Action Simulator UInt32).Yields s (s.peek a) t ∧
      AgreesOff a s t := by
  cases ha : Channel.all.any fun c => s.map.statusAt c == a with
  | true =>
    have hread := yields_readRegister_of_status hopen (ha ▸ hstatus.isStatus_eq a)
    exact ⟨s.clearFlags a, hread, agreesOff_clearFlags s a⟩
  | false =>
    have hread := yields_readRegister_of_plain hopen (ha ▸ hstatus.isStatus_eq a)
    exact ⟨s, hread, AgreesOff.refl a s⟩

theorem yields_readRegister_of_closed (hclosed : s.isOpen = false) (a : UInt32) :
    (FrontEnd.readRegister a : Action Simulator UInt32).Yields s 0 s := by
  refine (yields_get s).bind ?_
  rw [hclosed, if_neg Bool.false_ne_true]
  exact yields_pure 0 s

theorem yields_writeRegister (hopen : s.isOpen = true) (a v : UInt32) :
    (FrontEnd.writeRegister a v : Action Simulator Unit).Yields s () (s.store a v) :=
  yields_modify (if_pos hopen)

theorem yields_writeRegister_of_closed (hclosed : s.isOpen = false) (a v : UInt32) :
    (FrontEnd.writeRegister a v : Action Simulator Unit).Yields s () s :=
  yields_modify (if_neg (by rw [hclosed]; exact Bool.false_ne_true))

/-- If the status registers exist, the device answers, be it open or closed. -/
theorem responsive {map : RegisterMap} (hstatus : map.HasStatus) :
    FrontEnd.Responsive fun s : Simulator => s.map = map where
  read s address hmap := by
    cases hopen : s.isOpen with
    | true =>
      obtain ⟨t, hread, ht⟩ := exists_yields_readRegister hopen (hmap ▸ hstatus) address
      exact ⟨_, t, hread, ht.map_eq.trans hmap⟩
    | false => exact ⟨0, s, yields_readRegister_of_closed hopen address, hmap⟩
  write s address v hmap := by
    cases hopen : s.isOpen with
    | true => exact ⟨_, yields_writeRegister hopen address v, hmap⟩
    | false => exact ⟨s, yields_writeRegister_of_closed hopen address v, hmap⟩

theorem yields_setStatus (hstatus : s.map.HasStatus) (c : Channel) (raw : UInt32) :
    (setStatus c raw).Yields s () (s.load (s.map.statusAt c) raw) :=
  (yields_get s).bind ((yields_ofExcept (hstatus c) s).bind (yields_modify rfl))

/-! ## Blocks -/

/-- A transfer fits if it ends within the window. -/
theorem checkSpan_of_le (hopen : s.isOpen = true) (direction : Direction) {length : Nat}
    {offset : UInt32} (h : offset.toNat + length ≤ windowSize) :
    s.checkSpan direction length offset = .ok () := by
  have hstop : min (offset.toNat + length) windowSize = offset.toNat + length := Nat.min_eq_left h
  have hfits : (decide (offset.toNat + length < offset.toNat) ||
      decide (offset.toNat + length - offset.toNat < length)) = false := by
    rw [Bool.or_eq_false_iff, decide_eq_false_iff_not, decide_eq_false_iff_not]
    omega
  simp only [checkSpan, hstop, hopen, hfits, Bool.not_true, Bool.false_eq_true, if_false]

/-- Otherwise it is short, by what lies past the window. -/
theorem checkSpan_of_lt (hopen : s.isOpen = true) (direction : Direction) {length : Nat}
    {offset : UInt32} (h : windowSize < offset.toNat + length) :
    s.checkSpan direction length offset =
      .error (.transfer direction length offset (.short (windowSize - offset.toNat))) := by
  have hstop : min (offset.toNat + length) windowSize = windowSize :=
    Nat.min_eq_right (Nat.le_of_lt h)
  have hshort : (decide (windowSize < offset.toNat) ||
      decide (windowSize - offset.toNat < length)) = true := by
    rw [Bool.or_eq_true_iff, decide_eq_true_eq, decide_eq_true_eq]
    omega
  simp only [checkSpan, hstop, hopen, hshort, Bool.not_true, Bool.false_eq_true, if_false, if_true]

theorem checkSpan_of_closed (hclosed : s.isOpen = false) (direction : Direction) (length : Nat)
    (offset : UInt32) : s.checkSpan direction length offset = .error .notOpen := by
  rw [checkSpan, hclosed, Bool.not_false, if_pos rfl]

theorem yields_writeBlock_of_ok {data : ByteArray} {offset : UInt32}
    (h : s.checkSpan .toCard data.size offset = .ok ()) :
    (FrontEnd.writeBlock data offset : Action Simulator (Except FrontEndError Unit)).Yields s
      (.ok ()) { s with window := s.window.write offset.toNat data } := by
  refine (yields_get s).bind ?_
  rw [h]
  exact (yields_set s _).bind (yields_pure _ _)

theorem yields_writeBlock_of_error {data : ByteArray} {offset : UInt32} {e : FrontEndError}
    (h : s.checkSpan .toCard data.size offset = .error e) :
    (FrontEnd.writeBlock data offset : Action Simulator (Except FrontEndError Unit)).Yields s
      (.error e) s := by
  refine (yields_get s).bind ?_
  rw [h]
  exact yields_pure _ s

theorem yields_readBlock_of_ok {length : Nat} {offset : UInt32}
    (h : s.checkSpan .toHost length offset = .ok ()) :
    (FrontEnd.readBlock length offset : Action Simulator BlockRead).Yields s
      ⟨s.window.read offset.toNat length, .ok ()⟩ s := by
  refine (yields_get s).bind ?_
  rw [h]
  exact yields_pure _ s

theorem yields_readBlock_of_error {length : Nat} {offset : UInt32} {e : FrontEndError}
    (h : s.checkSpan .toHost length offset = .error e) :
    (FrontEnd.readBlock length offset : Action Simulator BlockRead).Yields s
      ⟨.empty, .error e⟩ s := by
  refine (yields_get s).bind ?_
  rw [h]
  exact yields_pure _ s

/-- A block is written if its span is in order, and else the device is as it was. -/
theorem exists_yields_writeBlock (s : Simulator) (data : ByteArray) (offset : UInt32) :
    ∃ t, (FrontEnd.writeBlock data offset :
        Action Simulator (Except FrontEndError Unit)).Yields s
        (s.checkSpan .toCard data.size offset) t ∧
      (s.checkSpan .toCard data.size offset ≠ .ok () → t = s) := by
  cases hcheck : s.checkSpan .toCard data.size offset with
  | ok _ => exact ⟨_, yields_writeBlock_of_ok hcheck, fun hne => absurd rfl hne⟩
  | error e => exact ⟨s, yields_writeBlock_of_error hcheck, fun _ => rfl⟩

theorem exists_yields_readBlock (s : Simulator) (length : Nat) (offset : UInt32) :
    ∃ r, (FrontEnd.readBlock length offset : Action Simulator BlockRead).Yields s r s ∧
      r.outcome = s.checkSpan .toHost length offset := by
  cases hcheck : s.checkSpan .toHost length offset with
  | ok _ => exact ⟨_, yields_readBlock_of_ok hcheck, rfl⟩
  | error e => exact ⟨_, yields_readBlock_of_error hcheck, rfl⟩

end RadioFrontEnd.Simulator
