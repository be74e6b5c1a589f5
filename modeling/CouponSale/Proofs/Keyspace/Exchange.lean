import CouponSale.Keyspace.Exchange
import CouponSale.Proofs.Keyspace.Reservation
import CouponSale.Proofs.Trace

/-!
What a claim does to a counter server, however its messages are ordered. The script is all or
nothing: it takes a unit off and adds the user and replies with one, or it changes nothing. So a
claim changes the keyspace just when its script has replied with one. Who is told that the counter
is unavailable got another reply, and has changed nothing. Who gave up waiting got no reply, and the
script may have taken the unit before, or may still take it.
-/
namespace CouponSale

open Script (stockKey claimedKey)

/-- A unit of a coupon is taken off the stock, and the user is added to those who hold one. -/
structure Keyspace.Takes (k after : Keyspace) (coupon : CouponId) (user : UserId) : Prop where
  unit : ∃ digits units, k.cell? (stockKey coupon) = some (.text digits) ∧
    Decimal.readCanonical? digits.toList = some units ∧
    after.cell? (stockKey coupon) = some (.text (Decimal.text (units - 1)))
  user : ∃ users, k.membersOf (claimedKey coupon) = .ok users ∧ user.text ∉ users ∧
    after.membersOf (claimedKey coupon) = .ok (user.text :: users)
  others : ∀ key, key ≠ stockKey coupon → key ≠ claimedKey coupon → after.cell? key = k.cell? key

variable {k : Keyspace} {coupon : CouponId} {user : UserId}

theorem Keyspace.Grants.takes {after : Keyspace} {units : Int}
    (grants : k.Grants after coupon user units) (offers : k.Offers coupon user units) :
    k.Takes after coupon user := by
  obtain ⟨users, members, free, cells⟩ := grants
  constructor
  · refine ⟨_, units, offers.stocked, ?_, ?_⟩
    · rw [Decimal.toList_text]
      exact Decimal.readCanonical?_ofInt offers.fits
    · rw [cells, if_pos rfl]
  · refine ⟨users, members, free, membersOf_eq_ok_iff.mpr (.inl ?_)⟩
    rw [cells, if_neg (Script.stockKey_ne_claimedKey _ _).symm, if_pos rfl]
  · intro key apart apart'
    rw [cells, if_neg apart, if_neg apart']

/-- The script changes nothing, or replies with one and takes a unit for the user. -/
theorem Script.reserve_cases (k : Keyspace) (coupon : CouponId) (user : UserId) :
    (∃ reply, reserve k coupon user = (reply, k) ∧ reply ≠ .ok 1) ∨
      ∃ after, reserve k coupon user = (.ok 1, after) ∧ k.Takes after coupon user := by
  have replies := reserve_replies k coupon user
  generalize reserve k coupon user = ran at replies
  obtain ⟨reply, after⟩ := ran
  rcases replies.granted_or_same with ⟨granted, units, offers, grants⟩ | ⟨refused, same⟩
  · exact .inr ⟨after, Prod.ext granted rfl, grants.takes offers⟩
  · exact .inl ⟨reply, Prod.ext rfl same, refused⟩

theorem Keyspace.Takes.ne {after : Keyspace} (takes : k.Takes after coupon user) : after ≠ k := by
  rintro rfl
  obtain ⟨users, before, _, added⟩ := takes.user
  rw [before] at added
  have lengths := congrArg List.length (Except.ok.inj added)
  simp at lengths

namespace Exchange

/-- The server's reply to a call, once its script has run. -/
def reply? (x : Exchange) (n : Nat) : Option (Reply Int) := x.calls[n]?.bind Call.reply

/-- Why a caller hears an answer. -/
inductive Cause (call : Call) (n : Nat) : Label → Answer Reservation → Prop where
  | delivered {reply : Reply Int} (ran : call.reply = some reply) :
      Cause call n (.deliver n) (hear reply)
  | expired {after : Span} : Cause call n (.expire n after) (.error (.counterTimeout after))

/-- A move of an exchange. -/
inductive Move (x : Exchange) : Label → Exchange → List Told → Prop where
  | send {user : UserId} {coupon : CouponId} :
      Move x (.send user coupon) { x with calls := x.calls ++ [⟨user, coupon, none, none⟩] } []
  | execute {n : Nat} {call : Call} (here : x.calls[n]? = some call) (unrun : call.reply = none) :
      Move x (.execute n)
        ({ x with keys := (Script.reserve x.keys call.coupon call.user).2 }.change n
          { call with reply := some (Script.reserve x.keys call.coupon call.user).1 }) []
  | tell {n : Nat} {call : Call} {label : Label} {answer : Answer Reservation} {soldOut : SoldOut}
      (here : x.calls[n]? = some call) (waits : call.answer = none)
      (cause : Cause call n label answer) :
      Move x label { x.change n { call with answer := some answer } with soldOut } [(n, answer)]

/-- A move that takes a unit for the user of a call. -/
def TakesFor (n : Nat) (move : Transition Exchange Label Told) : Prop :=
  move.label = .execute n ∧ ∃ call, move.before.calls[n]? = some call ∧
    move.before.keys.Takes move.after.keys call.coupon call.user

variable {keys : Keyspace} {x y : Exchange} {label : Label} {told : List Told} {n m : Nat}
  {call : Call} {answer : Answer Reservation} {moves : List (Transition Exchange Label Told)}

theorem tell?_move (here : x.calls[n]? = some call) (cause : Cause call n label answer)
    (step : x.tell? n call answer = some (y, told)) : Move x label y told := by
  unfold tell? at step
  cases waits : call.answer with
  | some earlier => simp [waits] at step
  | none =>
    simp only [waits, Option.isSome_none, Bool.false_eq_true, if_false] at step
    cases step
    exact .tell here waits cause

theorem step?_move (step : x.step? label = some (y, told)) : Move x label y told := by
  cases label with
  | send user coupon =>
    obtain ⟨y, sent, same⟩ := Option.map_eq_some_iff.mp step
    unfold send? at sent
    split at sent
    · contradiction
    · cases sent
      cases same
      exact .send
  | execute n =>
    obtain ⟨call, here, ran⟩ := Option.bind_eq_some_iff.mp step
    obtain ⟨y, ran, same⟩ := Option.map_eq_some_iff.mp ran
    unfold execute? at ran
    cases unrun : call.reply with
    | some reply => simp [unrun] at ran
    | none =>
      simp only [unrun, Option.isSome_none, Bool.false_eq_true, if_false] at ran
      cases ran
      cases same
      exact .execute here unrun
  | deliver n =>
    obtain ⟨call, here, heard⟩ := Option.bind_eq_some_iff.mp step
    obtain ⟨reply, ran, heard⟩ := Option.bind_eq_some_iff.mp heard
    exact tell?_move here (.delivered ran) heard
  | expire n after =>
    obtain ⟨call, here, heard⟩ := Option.bind_eq_some_iff.mp step
    exact tell?_move here .expired heard

theorem reply?_send (user : UserId) (coupon : CouponId) (n : Nat) :
    ({ x with calls := x.calls ++ [⟨user, coupon, none, none⟩] } : Exchange).reply? n =
      x.reply? n := by
  unfold reply?
  rcases Nat.lt_trichotomy n x.calls.length with below | rfl | above
  · rw [List.getElem?_append_left below]
  · simp
  · rw [List.getElem?_eq_none (by simp; omega), List.getElem?_eq_none (by omega)]

theorem reply?_change (here : x.calls[m]? = some call) (next : Call) (n : Nat) :
    (x.change m next).reply? n = if n = m then next.reply else x.reply? n := by
  have within := (List.getElem?_eq_some_iff.mp here).1
  unfold reply? change
  rw [List.getElem?_set]
  by_cases same : n = m
  · subst same
    simp [within]
  · rw [if_neg (Ne.symm same), if_neg same]

/-- What the moves of a run did, and why each caller was told what. -/
structure Accounts (moves : List (Transition Exchange Label Told)) (x : Exchange) : Prop where
  frame : ∀ move ∈ moves, move.after.keys = move.before.keys ∨ ∃ n, TakesFor n move
  taken : ∀ n, (∃ move ∈ moves, TakesFor n move) ↔ x.reply? n = some (.ok 1)
  told : ∀ n answer, (n, answer) ∈ heard moves →
    (∃ reply, x.reply? n = some reply ∧ answer = hear reply) ∨
      ∃ after, answer = .error (.counterTimeout after)

/-- A move on behalf of no call, or one that runs no script, takes nothing and changes no reply. -/
theorem Accounts.aside (accounts : Accounts moves x) (keys : y.keys = x.keys)
    (replies : ∀ n, y.reply? n = x.reply? n) (unrun : ∀ n, label ≠ .execute n)
    (caused : ∀ n answer, (n, answer) ∈ told →
      (∃ reply, x.reply? n = some reply ∧ answer = hear reply) ∨
        ∃ after, answer = .error (.counterTimeout after)) :
    Accounts (moves ++ [⟨x, label, y, told⟩]) y where
  frame := by
    intro move member
    rcases List.mem_append.mp member with earlier | last
    · exact accounts.frame move earlier
    · rw [List.mem_singleton.mp last]
      exact .inl keys
  taken := by
    intro n
    rw [replies, ← accounts.taken]
    constructor
    · rintro ⟨move, member, takes⟩
      rcases List.mem_append.mp member with earlier | last
      · exact ⟨move, earlier, takes⟩
      · rw [List.mem_singleton.mp last] at takes
        exact absurd takes.1 (unrun n)
    · rintro ⟨move, member, takes⟩
      exact ⟨move, List.mem_append_left _ member, takes⟩
  told := by
    intro n answer heard
    rw [replies]
    rcases mem_heard_append.mp heard with earlier | last
    · exact accounts.told n answer earlier
    · exact caused n answer last

/-- A script that runs has an effect of its own call just when it replies with one. -/
theorem Accounts.execute (accounts : Accounts moves x) (here : x.calls[n]? = some call)
    (unrun : call.reply = none) {reply : Reply Int} {after : Keyspace}
    (ran : Script.reserve x.keys call.coupon call.user = (reply, after)) :
    Accounts (moves ++ [⟨x, .execute n,
      ({ x with keys := after }.change n { call with reply := some reply }), []⟩])
      ({ x with keys := after }.change n { call with reply := some reply }) := by
  have replies := reply?_change (x := { x with keys := after }) here
    { call with reply := some reply }
  have none : x.reply? n = none := by simp [reply?, here, unrun]
  have effect : (reply ≠ .ok 1 ∧ after = x.keys) ∨
      (reply = .ok 1 ∧ x.keys.Takes after call.coupon call.user) := by
    rcases Script.reserve_cases x.keys call.coupon call.user with
      ⟨other, did, refused⟩ | ⟨other, did, takes⟩
    · cases ran.symm.trans did
      exact .inl ⟨refused, rfl⟩
    · cases ran.symm.trans did
      exact .inr ⟨rfl, takes⟩
  constructor
  · intro move member
    rcases List.mem_append.mp member with earlier | last
    · exact accounts.frame move earlier
    · rw [List.mem_singleton.mp last]
      rcases effect with ⟨_, same⟩ | ⟨_, takes⟩
      · exact .inl same
      · exact .inr ⟨n, rfl, call, here, takes⟩
  · intro m
    rw [replies]
    constructor
    · rintro ⟨move, member, takes⟩
      rcases List.mem_append.mp member with earlier | last
      · have before := (accounts.taken m).mp ⟨move, earlier, takes⟩
        rw [if_neg]
        · exact before
        · rintro rfl
          simp [none] at before
      · rw [List.mem_singleton.mp last] at takes
        obtain ⟨own, other, here', takes⟩ := takes
        cases own
        rw [if_pos rfl]
        rcases effect with ⟨_, same⟩ | ⟨granted, _⟩
        · exact absurd same takes.ne
        · rw [granted]
    · intro granted
      by_cases own : m = n
      · subst own
        rw [if_pos rfl] at granted
        rcases effect with ⟨refused, _⟩ | ⟨_, takes⟩
        · exact absurd (Option.some.inj granted) refused
        · exact ⟨_, List.mem_append_right _ (List.mem_singleton_self _), rfl, call, here, takes⟩
      · rw [if_neg own] at granted
        obtain ⟨move, member, takes⟩ := (accounts.taken m).mpr granted
        exact ⟨move, List.mem_append_left _ member, takes⟩
  · intro m answer heard
    rw [replies]
    have earlier : (m, answer) ∈ CouponSale.heard moves := by
      simpa [mem_heard_append] using heard
    rcases accounts.told m answer earlier with ⟨reply, known, meant⟩ | expired
    · left
      refine ⟨reply, ?_, meant⟩
      rw [if_neg]
      · exact known
      · rintro rfl
        simp [none] at known
    · exact .inr expired

theorem Accounts.move (accounts : Accounts moves x) (step : x.step? label = some (y, told)) :
    Accounts (moves ++ [⟨x, label, y, told⟩]) y := by
  cases step?_move step with
  | send => exact accounts.aside rfl (reply?_send _ _) (by simp) (by simp)
  | @execute n call here unrun => exact accounts.execute here unrun rfl
  | @tell n call label answer soldOut here waits cause =>
    have reply : x.reply? n = call.reply := by simp [reply?, here]
    refine accounts.aside rfl ?_ ?_ ?_
    · intro m
      refine (reply?_change here { call with answer := some answer } m).trans ?_
      split
      · rename_i same
        rw [same, reply]
      · rfl
    · intro m
      cases cause <;> simp
    · intro m other told
      obtain ⟨rfl, rfl⟩ := Prod.mk.inj (List.mem_singleton.mp told)
      cases cause with
      | delivered ran => exact .inl ⟨_, reply.trans ran, rfl⟩
      | expired => exact .inr ⟨_, rfl⟩

theorem accounts_of_trace (trace : Trace step? (new keys) moves x) : Accounts moves x := by
  induction trace with
  | start =>
    constructor
    · simp
    · simp [new, reply?]
    · simp [heard]
  | move sofar step ih => exact ih.move step

/-- A reply of one means that a unit was reserved. -/
theorem hear_granted : hear (.ok 1) = .ok .claimed := rfl

/-- What claims do to the keyspace, in whatever order their scripts are sent and run, replies arrive
and waits end. Nothing changes it but scripts that take a unit for the user of their call, and these
are the ones that reply with one. So a call that is told that the counter is unavailable takes
nothing, neither before nor after; and a call that is told that its wait has ended takes nothing
either, unless its script, which runs once whenever it may, finds a unit for the user. -/
theorem takes_iff_granted (trace : Trace step? (new keys) moves x) :
    (∀ move ∈ moves, move.after.keys = move.before.keys ∨ ∃ n, TakesFor n move) ∧
      (∀ n, (∃ move ∈ moves, TakesFor n move) ↔ x.reply? n = some (.ok 1)) ∧
      (∀ n text, (n, .error (.counterUnavailable text)) ∈ heard moves →
        ∀ move ∈ moves, ¬ TakesFor n move) ∧
      ∀ n after, (n, .error (.counterTimeout after)) ∈ heard moves →
        x.reply? n ≠ some (.ok 1) → ∀ move ∈ moves, ¬ TakesFor n move := by
  have accounts := accounts_of_trace trace
  refine ⟨accounts.frame, accounts.taken, ?_, ?_⟩
  · intro n text told move member takes
    have granted := (accounts.taken n).mp ⟨move, member, takes⟩
    rcases accounts.told n _ told with ⟨reply, known, meant⟩ | ⟨after, other⟩
    · rw [granted] at known
      cases known
      rw [hear_granted] at meant
      cases meant
    · cases other
  · intro n after _ refused move member takes
    exact refused ((accounts.taken n).mp ⟨move, member, takes⟩)

/-- One unit of a coupon. -/
def lastUnit : Keyspace := Keyspace.empty.set (stockKey ⟨1⟩) "1"

/-- The caller gives up waiting before the script runs, or before its reply arrives. -/
def lateScript : List Label := [.send ⟨7⟩ ⟨1⟩, .expire 0 (.ofMillis 50), .execute 0]

def lateReply : List Label := [.send ⟨7⟩ ⟨1⟩, .execute 0, .expire 0 (.ofMillis 50)]

/-- Some labels lead from one unit to a caller whose wait has ended, and to the unit taken for
it. -/
def TakesUnheard (labels : List Label) : Prop :=
  ∃ x, run? step? (new lastUnit) labels =
      some (x, [(0, .error (.counterTimeout (.ofMillis 50)))]) ∧
    x.keys.membersOf (claimedKey ⟨1⟩) = .ok [(⟨7⟩ : UserId).text] ∧
    x.keys.get (stockKey ⟨1⟩) = .ok (some "0")

/-- A unit may be taken after the caller was told that its wait has ended, or before. -/
theorem timeout_takes_lastUnit : TakesUnheard lateScript ∧ TakesUnheard lateReply := by
  constructor
  · exact ⟨_, rfl, by decide +kernel, by decide +kernel⟩
  · exact ⟨_, rfl, by decide +kernel, by decide +kernel⟩

/-- The script that runs late takes the unit for the call that was given up. -/
theorem takes_iff_granted_lateScript : ∃ moves x,
    Trace step? (new lastUnit) moves x ∧
      (0, .error (.counterTimeout (.ofMillis 50))) ∈ heard moves ∧
      ∃ move ∈ moves, TakesFor 0 move := by
  have run : ∃ moves x, trace? step? (new lastUnit) lateScript = some (moves, x) ∧
      heard moves = [(0, .error (.counterTimeout (.ofMillis 50)))] ∧
      x.reply? 0 = some (.ok 1) :=
    ⟨_, _, rfl, rfl, by decide +kernel⟩
  obtain ⟨moves, x, traced, told, granted⟩ := run
  have trace := Trace.of_trace? traced
  refine ⟨moves, x, trace, ?_, ((takes_iff_granted trace).2.1 0).mpr granted⟩
  rw [told]
  exact List.mem_singleton_self _

end Exchange
end CouponSale
