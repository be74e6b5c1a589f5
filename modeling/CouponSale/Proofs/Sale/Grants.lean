import CouponSale.Proofs.Sale.Rows

/-!
The grants of a sale over stores in memory. Every reservation that a counter has granted is either
with a claim that has still to be answered, or was decided as a success; so a user is told of a
success at most once for a coupon, and a task for it is submitted at most once.
-/
namespace CouponSale

/-- A claim of a user for a coupon that was granted and is still to be answered. -/
def Call.grants (user : UserId) (coupon : CouponId) (call : Call) : Bool :=
  match call.stage with
  | .told (.ok .claimed) => call.user = user ∧ call.coupon = coupon
  | _ => false

/-- Decides a claim of a user for a coupon as a success. -/
def Note.success (user : UserId) (coupon : CouponId) : Note → Bool
  | .decided u c .success => u = user ∧ c = coupon
  | _ => false

/-- Tells of a dead letter that is not kept. -/
def Note.ofLetter : Note → Bool
  | .letterLogged _ | .letterLost _ _ => true
  | _ => false

theorem mem_fileLetters {m : Memory} {notes : List Note} {note : Note}
    (member : note ∈ (Sale.fileLetters m notes).2) : note ∈ notes ∨ note.ofLetter = true := by
  induction notes generalizing m with
  | nil => exact .inl member
  | cons first notes ih =>
    have parts : note = first ∨ note.ofLetter = true ∨
        ∃ n : Memory, note ∈ (Sale.fileLetters n notes).2 := by
      cases first with
      | deadLettered job reason lastError =>
        simp only [Sale.fileLetters, Backend.file, Memory.file] at member
        cases sink : m.sink <;>
          simp only [sink, List.cons_append, List.nil_append, List.mem_cons] at member
        · exact member.imp_right fun later => .inr ⟨_, later⟩
        · rcases member with same | rfl | later
          · exact .inl same
          · exact .inr (.inl rfl)
          · exact .inr (.inr ⟨_, later⟩)
        · rcases member with same | rfl | later
          · exact .inl same
          · exact .inr (.inl rfl)
          · exact .inr (.inr ⟨_, later⟩)
      | _ => exact (List.mem_cons.mp member).imp_right fun later => .inr ⟨_, later⟩
    rcases parts with rfl | letter | ⟨n, later⟩
    · exact .inl (List.mem_cons_self)
    · exact .inr letter
    · exact (ih later).imp_left (.tail _)

namespace Sale

/-- What a move of the pool leaves in the notes is the pool's, or about a letter. -/
theorem mem_absorb {label : Pool.Label} {moved : Pool.Moved} (s : Sale Memory)
    (step : s.pool.step? label = some moved) :
    ∀ note ∈ (s.absorb moved).2, note.ofPool = true ∧ note ∈ moved.2 ∨ note.ofLetter = true := by
  intro note member
  rcases mem_fileLetters member with own | letter
  · have pools := (Pool.step?_move (q := moved.1) step).ofPool
    exact .inl ⟨List.filter_eq_self.mp pools note own, own⟩
  · exact .inr letter

variable {s t : Sale Memory} {notes : List Note}

/-- A claim in progress stands apart from the others. -/
theorem call_parts {number : Nat} {call : Call} (numbered : (s.calls.map Call.number).Nodup)
    (found : s.call? number = some call) :
    ∃ before after, s.calls = before ++ call :: after ∧ call.number = number ∧
      (∀ other ∈ before, other.number ≠ number) ∧ ∀ other ∈ after, other.number ≠ number := by
  obtain ⟨same, before, after, parts, earlier⟩ := List.find?_eq_some_iff_append.mp found
  have same : call.number = number := by simpa using same
  refine ⟨before, after, parts, same, by simpa using earlier, ?_⟩
  intro other member taken
  rw [parts, List.map_append, List.map_cons, List.nodup_append, List.nodup_cons] at numbered
  exact numbered.2.1.1 (List.mem_map.mpr ⟨other, member, taken.trans same.symm⟩)

theorem calls_setStage {number : Nat} {call : Call} {stage : Call.Stage} {before after : List Call}
    (parts : s.calls = before ++ call :: after) (same : call.number = number)
    (earlier : ∀ other ∈ before, other.number ≠ number)
    (later : ∀ other ∈ after, other.number ≠ number) :
    (s.setStage number stage).calls = before ++ { call with stage } :: after := by
  have keeps : ∀ calls : List Call, (∀ other ∈ calls, other.number ≠ number) →
      calls.map (fun c => if c.number = number then { c with stage } else c) = calls := by
    intro calls others
    exact (List.map_congr_left fun other member => if_neg (others other member)).trans
      (List.map_id' _)
  simp [setStage, parts, same, keeps before earlier, keeps after later]

theorem calls_dropCall {number : Nat} {call : Call} {before after : List Call}
    (parts : s.calls = before ++ call :: after) (same : call.number = number)
    (earlier : ∀ other ∈ before, other.number ≠ number)
    (later : ∀ other ∈ after, other.number ≠ number) :
    (s.dropCall number).calls = before ++ after := by
  have keeps : ∀ calls : List Call, (∀ other ∈ calls, other.number ≠ number) →
      calls.filter (fun c => !decide (c.number = number)) = calls :=
    fun calls others => List.filter_eq_self.mpr (by simpa using others)
  simp [dropCall, parts, same, keeps before earlier, keeps after later]

/-- The account of reservations, claims in progress having different numbers. -/
structure Granted (s : Sale Memory) (notes : List Note) : Prop where
  numbered : (s.calls.map Call.number).Nodup
  accounted : ∀ user coupon, s.calls.countP (·.grants user coupon) +
    notes.countP (·.success user coupon) = (s.stores.counter.holders coupon).count user

/-- What leaves the claims and the reservations alone. -/
theorem Granted.aside {more : List Note} (granted : Granted s notes) (calls : t.calls = s.calls)
    (holders : ∀ coupon, t.stores.counter.holders coupon = s.stores.counter.holders coupon)
    (silent : ∀ user coupon, more.countP (·.success user coupon) = 0) :
    Granted t (notes ++ more) := by
  refine ⟨calls ▸ granted.numbered, ?_⟩
  intro user coupon
  rw [List.countP_append, silent, Nat.add_zero, calls, holders]
  exact granted.accounted user coupon

theorem success_absorb {label : Pool.Label} {moved : Pool.Moved} (s : Sale Memory)
    (step : s.pool.step? label = some moved) (user : UserId) (coupon : CouponId) :
    (s.absorb moved).2.countP (·.success user coupon) = 0 := by
  apply List.countP_eq_zero.mpr
  intro note member
  rcases mem_absorb s step note member with ⟨pools, _⟩ | letter
  · cases note <;> simp_all [Note.ofPool, Note.success]
  · cases note <;> simp_all [Note.ofLetter, Note.success]

theorem success_answerNotes (call : Call) (answer : Answer Outcome) (user : UserId)
    (coupon : CouponId) : (answerNotes call answer).countP (·.success user coupon) = 0 := by
  unfold answerNotes
  split <;> rfl

theorem success_reserveNotes (call : Call) (answer : Answer Reservation) (user : UserId)
    (coupon : CouponId) : (reserveNotes call answer).countP (·.success user coupon) = 0 := by
  cases answer <;> rfl

theorem Granted.tell {call : Call} {due expiry : Nat} {verdict : Answer Reservation}
    {more : List Note} (granted : Granted s notes) (found : s.call? call.number = some call)
    (asks : call.stage = .asking due expiry)
    (calls : t.calls = (s.setStage call.number (.told verdict)).calls)
    (holders : ∀ user coupon, (t.stores.counter.holders coupon).count user =
      (s.stores.counter.holders coupon).count user +
        if ({ call with stage := .told verdict } : Call).grants user coupon then 1 else 0)
    (silent : ∀ user coupon, more.countP (·.success user coupon) = 0) :
    Granted t (notes ++ more) := by
  obtain ⟨before, after, parts, same, earlier, later⟩ := call_parts granted.numbered found
  rw [calls_setStage parts same earlier later] at calls
  constructor
  · have numbered := granted.numbered
    simpa [calls, parts] using numbered
  · intro user coupon
    have accounted := granted.accounted user coupon
    have waits : call.grants user coupon = false := by simp [Call.grants, asks]
    rw [List.countP_append, silent, holders, calls]
    simp only [parts, List.countP_append, List.countP_cons, waits, Bool.false_eq_true,
      if_false] at accounted ⊢
    omega

theorem Granted.answer {call : Call} {more : List Note} (granted : Granted s notes)
    (found : s.call? call.number = some call)
    (calls : t.calls = (s.dropCall call.number).calls)
    (holders : ∀ coupon, t.stores.counter.holders coupon = s.stores.counter.holders coupon)
    (told : ∀ user coupon, more.countP (·.success user coupon) =
      if call.grants user coupon then 1 else 0) :
    Granted t (notes ++ more) := by
  obtain ⟨before, after, parts, same, earlier, later⟩ := call_parts granted.numbered found
  rw [calls_dropCall parts same earlier later] at calls
  constructor
  · have fewer : (before ++ after).Sublist s.calls :=
      parts ▸ (List.sublist_cons_self call after).append_left before
    rw [calls]
    exact granted.numbered.sublist (fewer.map Call.number)
  · intro user coupon
    have accounted := granted.accounted user coupon
    rw [List.countP_append, told, holders, calls]
    simp only [parts, List.countP_append, List.countP_cons] at accounted ⊢
    omega

theorem holders_absorb (s : Sale Memory) (moved : Pool.Moved) (coupon : CouponId) :
    (s.absorb moved).1.stores.counter.holders coupon = s.stores.counter.holders coupon := by
  rw [absorb_counter]

theorem Move.granted {label : Label} {more : List Note} (granted : Granted s notes)
    (move : Move s label t more) : Granted t (notes ++ more) := by
  cases move with
  | refuse known =>
    exact granted.aside rfl (fun _ => rfl) fun user coupon => by
      rw [List.countP_cons, success_answerNotes]
      rfl
  | @ask call due expiry asks new =>
    constructor
    · have fresh : ∀ other ∈ s.calls, other.number ≠ call.number := by
        simpa [call?] using new
      simp only [List.map_append, List.map_cons, List.map_nil, List.nodup_append]
      refine ⟨granted.numbered, by simp, ?_⟩
      intro a member b single same
      obtain ⟨other, here, rfl⟩ := List.mem_map.mp member
      exact fresh other here (same.trans (List.mem_singleton.mp single))
    · intro user coupon
      have waits : call.grants user coupon = false := by simp [Call.grants, asks]
      simpa [waits, Backend.beginReserve] using granted.accounted user coupon
  | @hear call due expiry found asks ripe =>
    refine granted.tell found asks rfl ?_ (success_reserveNotes call _)
    intro user coupon
    rcases s.stores.reserve_cases call.coupon call.user with ⟨failed, same⟩ | ⟨verdict, said, reserves⟩
    · simp only [Backend.reserve, setStage, failed, same, Call.grants]
      rfl
    · simp only [Backend.reserve, setStage, said, reserves.count_holders user coupon, Call.grants]
      cases verdict <;> simp
  | expire found asks late =>
    exact granted.tell found asks rfl (fun _ _ => by simp [Call.grants, setStage])
      (success_reserveNotes _ _)
  | @fail call e found told =>
    refine granted.answer found rfl (fun _ => rfl) ?_
    intro user coupon
    rw [success_answerNotes]
    simp [Call.grants, told]
  | @decide call verdict found told =>
    have said : ∀ user coupon, (Note.decided call.user call.coupon verdict.outcome
        :: answerNotes call (.ok verdict.outcome)).countP (·.success user coupon) =
          if call.grants user coupon then 1 else 0 := by
      intro user coupon
      rw [List.countP_cons, success_answerNotes, Nat.zero_add]
      cases verdict <;> simp [Call.grants, told, Note.success, Reservation.outcome]
    cases verdict with
    | claimed =>
      have submits : s.pool.step? (.submit (.fresh call.user call.coupon)) = some _ := rfl
      refine granted.answer found rfl (holders_absorb s _) ?_
      intro user coupon
      rw [List.countP_append, said, follow, success_absorb s submits, Nat.zero_add]
    | outOfStock =>
      refine granted.answer found rfl (fun _ => rfl) ?_
      intro user coupon
      rw [List.countP_append, said]
      simp only [follow, flag]
      split <;> simp [Note.success]
    | _ => exact granted.answer found rfl (fun _ => rfl) (by
        intro user coupon
        rw [List.countP_append, said]
        simp [follow, Note.success])
  | beginWrite holds step =>
    exact granted.aside rfl (holders_absorb { s with stores := Backend.beginWrite s.stores } _)
      (success_absorb { s with stores := Backend.beginWrite s.stores } step)
  | @endWrite w draw job due moved writes step =>
    refine granted.aside rfl (fun coupon => ?_) (success_absorb { s with
      stores := (Backend.write s.stores job.task.user job.task.coupon).2 } step)
    rw [holders_absorb]
    exact congrArg (·.holders coupon) (s.stores.write_frame _ _).1
  | work apart step => exact granted.aside rfl (holders_absorb s _) (success_absorb s step)
  | manage same step => exact granted.aside rfl (holders_absorb s _) (success_absorb s step)
  | @create c now =>
    unfold openCoupon writeCoupon
    cases c.validate now <;> exact granted.aside rfl (fun _ => rfl) fun _ _ => rfl
  | seed found =>
    exact granted.aside rfl (fun _ => Counter.holders_seed _ _ _ _) fun _ _ => rfl
  | @reseed coupon =>
    simp only [Sale.reseed, Backend.find, Ledger.get]
    cases s.stores.ledger.find? coupon with
    | none => exact granted.aside rfl (fun _ => rfl) fun _ _ => rfl
    | some c => exact granted.aside rfl (fun _ => Counter.holders_seed _ _ _ _) fun _ _ => rfl
  | wait => exact granted.aside rfl (fun _ => rfl) fun _ _ => rfl

/-- What the pool accepts is the task of a claim that was granted and is decided as a success by the
same move, unless it is submitted past the claims. -/
theorem Move.accepted {label : Label} {more : List Note} (move : Move s label t more)
    (byClaims : ∀ task, label ≠ .submit task) : Pool.acceptedJobs more = [] ∨
      ∃ call ∈ s.calls, call.stage = .told (.ok .claimed) ∧
        .decided call.user call.coupon .success ∈ more ∧
        ∃ ticket, Pool.acceptedJobs more = [⟨ticket, .fresh call.user call.coupon⟩] := by
  have silent : poolNotes more = [] → Pool.acceptedJobs more = [] := by
    intro none
    rw [← acceptedJobs_poolNotes, none]
    rfl
  have pools : ∀ {part : Pool.Label} {moved : Pool.Moved} (u : Sale Memory),
      u.pool.step? part = some moved → (∀ task, part ≠ .submit task) →
      Pool.acceptedJobs (u.absorb moved).2 = [] := by
    intro part moved u step unasked
    rw [← acceptedJobs_poolNotes, poolNotes_absorb u step]
    rcases (Pool.step?_move (q := moved.1) step).accepted with none | ⟨task, same, _⟩
    · exact none
    · exact absurd same (unasked task)
  cases move with
  | refuse known => exact .inl (silent (by simp [poolNotes_cons, Note.ofPool, poolNotes_answerNotes]))
  | ask asks new => exact .inl (silent rfl)
  | hear found asks ripe => exact .inl (silent (poolNotes_reserveNotes _ _))
  | expire found asks late => exact .inl (silent (poolNotes_reserveNotes _ _))
  | fail found told => exact .inl (silent (poolNotes_answerNotes _ _))
  | @decide call verdict found told =>
    have answers : Pool.acceptedJobs (.decided call.user call.coupon verdict.outcome
        :: answerNotes call (.ok verdict.outcome)) = [] := by
      rw [← acceptedJobs_poolNotes, poolNotes_cons, poolNotes_answerNotes]
      rfl
    rw [Pool.acceptedJobs_append, answers, List.append_nil]
    cases verdict with
    | claimed =>
      have submits : s.pool.step? (.submit (.fresh call.user call.coupon)) =
        some (s.pool.submit (.fresh call.user call.coupon)).2 := rfl
      rw [follow, ← acceptedJobs_poolNotes, poolNotes_absorb s submits]
      rcases (Pool.step?_move submits).accepted with none | ⟨task, same, one⟩
      · exact .inl none
      · cases same
        refine .inr ⟨call, List.mem_of_find?_eq_some found, told, ?_, _, one⟩
        exact List.mem_append_right _ List.mem_cons_self
    | outOfStock =>
      simp only [follow, flag]
      split <;> simp [Pool.acceptedJobs, Note.accepted?]
    | _ => simp [follow, Pool.acceptedJobs, Note.accepted?]
  | beginWrite holds step =>
    exact .inl (pools { s with stores := Backend.beginWrite s.stores } step (by simp))
  | @endWrite _ _ job _ _ writes step =>
    exact .inl (pools { s with
      stores := (Backend.write s.stores job.task.user job.task.coupon).2 } step (by simp))
  | work apart step => exact .inl (pools s step (by simp))
  | @manage label part _ same step =>
    have unasked : ∀ task, part ≠ .submit task := by
      rintro task rfl
      cases label <;> simp_all [Label.pool?]
    exact .inl (pools s step unasked)
  | @create c now =>
    refine .inl (silent ?_)
    unfold openCoupon writeCoupon
    cases c.validate now <;> rfl
  | seed found => exact .inl (silent rfl)
  | @reseed coupon =>
    refine .inl (silent ?_)
    simp only [Sale.reseed, Backend.find, Ledger.get]
    cases s.stores.ledger.find? coupon <;> rfl
  | wait => exact .inl (silent rfl)

theorem Move.accepts {label : Label} {more : List Note} (move : Move s label t more)
    (byClaims : ∀ task, label ≠ .submit task) : ∀ job ∈ Pool.acceptedJobs more,
      ∃ call ∈ s.calls, call.stage = .told (.ok .claimed) ∧ job.task.coupon = call.coupon := by
  intro job member
  rcases move.accepted byClaims with none | ⟨call, here, granted, _, ticket, one⟩
  · rw [none] at member
    cases member
  · rw [one] at member
    rw [List.mem_singleton.mp member]
    exact ⟨call, here, granted, rfl⟩

/-- No more tasks are accepted for a user and a coupon than claims are decided as successes. -/
theorem Move.accepted_le {label : Label} {more : List Note} (move : Move s label t more)
    (byClaims : ∀ task, label ≠ .submit task) (user : UserId) (coupon : CouponId) :
    (Pool.acceptedJobs more).countP (·.isFor user coupon) ≤
      more.countP (·.success user coupon) := by
  rcases move.accepted byClaims with none | ⟨call, _, _, decided, ticket, one⟩
  · rw [none]
    exact Nat.zero_le _
  · rw [one, List.countP_singleton]
    split
    · rename_i same
      exact List.countP_pos_iff.mpr ⟨_, decided, same⟩
    · exact Nat.zero_le _

end Sale

namespace MemorySale

variable {config : Pool.Config} {reserveTimeout : Span} {sink : Sink} {s : Sale Memory}
  {notes : List Note}

/-- Every reservation is with a claim in progress, or was decided as a success. -/
theorem Reachable.granted (run : Reachable config reserveTimeout sink notes s) :
    Sale.Granted s notes := by
  refine run.keeps (P := Sale.Granted) ⟨List.nodup_nil, fun _ _ => rfl⟩ ?_
  intro s notes label t more granted step
  cases label with
  | move label => exact (Sale.step?_move step).granted granted
  | set setting =>
    cases step
    cases setting <;> exact granted.aside rfl (fun _ => rfl) fun _ _ => rfl

end MemorySale
end CouponSale
