import CouponSale.Proofs.Keyspace.Refinement

/-!
What a reservation does to a keyspace that holds anything at all. The stock is read twice: as a
numeral, which may be spaced, signed, hexadecimal or no integer, and as the canonical form of an
integer, when a unit is taken off it. A grant needs both readings, and of a canonical form they
agree on its sign; so nothing is left to fail once the unit is off, and a reservation that is not
granted leaves every key as it was.
-/
namespace CouponSale

open Script (stockKey claimedKey)

variable {k after : Keyspace} {coupon : CouponId} {user : UserId} {units : Int}

namespace Keyspace

theorem membersOf_eq_ok_iff {key : String} {users : List String} :
    k.membersOf key = .ok users ↔
      k.cell? key = some (.members users) ∨ k.cell? key = none ∧ users = [] := by
  unfold membersOf
  cases k.cell? key with
  | none => simp [eq_comm]
  | some cell => cases cell <;> simp

/-- There is a unit for a user: under the claimed key stands nothing, or a set without the user,
and under the stock key the written form of so many units, which are some. -/
structure Offers (k : Keyspace) (coupon : CouponId) (user : UserId) (units : Int) : Prop where
  free : k.cell? (claimedKey coupon) = none ∨
    ∃ users, k.cell? (claimedKey coupon) = some (.members users) ∧ user.text ∉ users
  stocked : k.cell? (stockKey coupon) = some (.text (Decimal.text units))
  fits : InInt64 units
  more : 0 < units

/-- A unit of so many is taken off the stock and the user is added, and no other key changes. -/
def Grants (k after : Keyspace) (coupon : CouponId) (user : UserId) (units : Int) : Prop :=
  ∃ users, k.membersOf (claimedKey coupon) = .ok users ∧ user.text ∉ users ∧
    ∀ key, after.cell? key =
      if key = stockKey coupon then some (.text (Decimal.text (units - 1)))
      else if key = claimedKey coupon then some (.members (user.text :: users))
      else k.cell? key

theorem Offers.members (offers : k.Offers coupon user units) :
    ∃ users, k.membersOf (claimedKey coupon) = .ok users ∧ user.text ∉ users := by
  rcases offers.free with missing | ⟨users, there, free⟩
  · exact ⟨[], membersOf_eq_ok_iff.mpr (.inr ⟨missing, rfl⟩), List.not_mem_nil⟩
  · exact ⟨users, membersOf_eq_ok_iff.mpr (.inl there), free⟩

end Keyspace

namespace Script

/-- What the script replies, and why, and what it leaves. The stock is looked at only if the user
holds no unit. -/
inductive Replies (k : Keyspace) (coupon : CouponId) (user : UserId) :
    Reply Int → Keyspace → Prop where
  | wrongSet {s : String} (there : k.cell? (claimedKey coupon) = some (.text s)) :
      Replies k coupon user (.error .wrongKind) k
  | held {users : List String} (members : k.membersOf (claimedKey coupon) = .ok users)
      (holds : user.text ∈ users) : Replies k coupon user (.ok 0) k
  | wrongStock {ms : List String} (there : k.cell? (stockKey coupon) = some (.members ms)) :
      Replies k coupon user (.error .wrongKind) k
  | unseeded {value : Option String} (there : k.get (stockKey coupon) = .ok value)
      (unread : value.bind (Numeral.read? ·.toList) = none) : Replies k coupon user (.ok (-2)) k
  | empty {s : String} {stock : Binary64} (there : k.cell? (stockKey coupon) = some (.text s))
      (read : Numeral.read? s.toList = some stock) (none : stock.atMost zero = true) :
      Replies k coupon user (.ok (-1)) k
  | unwritten {s : String} (there : k.cell? (stockKey coupon) = some (.text s))
      (other : Decimal.readCanonical? s.toList = none) :
      Replies k coupon user (.error .notInteger) k
  | granted {units : Int} {after : Keyspace} (offers : k.Offers coupon user units)
      (grants : k.Grants after coupon user units) : Replies k coupon user (.ok 1) after

/-- The end of the script takes a unit, unless the stock is not in canonical form. -/
theorem grant_replies {users : List String} {s : String} {stock : Binary64}
    (members : k.membersOf (claimedKey coupon) = .ok users) (free : user.text ∉ users)
    (there : k.cell? (stockKey coupon) = some (.text s))
    (read : Numeral.read? s.toList = some stock) (above : stock.atMost zero = false) :
    Replies k coupon user (grant k coupon user).1 (grant k coupon user).2 := by
  have text : k.get (stockKey coupon) = .ok (some s) := by rw [Keyspace.get, there]
  cases canonical : Decimal.readCanonical? s.toList with
  | none =>
    have refused : grant k coupon user = (.error .notInteger, k) := by
      simp [grant, Keyspace.decrement, text, canonical]
    rw [refused]
    exact .unwritten there canonical
  | some units =>
    obtain ⟨written, fits⟩ := Decimal.readCanonical?_eq_some_iff.mp canonical
    -- Both readings of the stock agree that there is a unit.
    have more : 0 < units := by
      obtain ⟨x, number, compared⟩ := Numeral.read?_ofInt units
      rw [written, number] at read
      obtain rfl := Option.some.inj read
      rw [zero, compared] at above
      simpa using above
    have least : units ≠ minInt64 := by
      unfold minInt64
      omega
    have fewer : k.decrement (stockKey coupon) =
        (.ok (units - 1), k.set (stockKey coupon) (Decimal.text (units - 1))) := by
      simp [Keyspace.decrement, text, canonical, least]
    have still : (k.set (stockKey coupon) (Decimal.text (units - 1))).membersOf
        (claimedKey coupon) = .ok users := by
      rw [Keyspace.set, Keyspace.membersOf_put_of_ne (stockKey_ne_claimedKey _ _).symm, members]
    have done : grant k coupon user = (.ok 1, (k.set (stockKey coupon)
        (Decimal.text (units - 1))).put (claimedKey coupon) (.members (user.text :: users))) := by
      simp only [grant, fewer, Keyspace.addMember, still]
      rw [if_neg (by simpa using free)]
    rw [done]
    refine .granted ⟨?_, ?_, fits, more⟩ ⟨users, members, free, ?_⟩
    · rcases Keyspace.membersOf_eq_ok_iff.mp members with set | ⟨missing, _⟩
      · exact .inr ⟨users, set, free⟩
      · exact .inl missing
    · rw [there, Decimal.text, ← written, String.ofList_toList]
    · intro key
      rw [Keyspace.cell?_put, Keyspace.set, Keyspace.cell?_put]
      by_cases stock : key = stockKey coupon
      · rw [if_neg (stock ▸ stockKey_ne_claimedKey _ _), if_pos stock, if_pos stock]
      · rw [if_neg stock, if_neg stock]

theorem reserve_replies (k : Keyspace) (coupon : CouponId) (user : UserId) :
    Replies k coupon user (reserve k coupon user).1 (reserve k coupon user).2 := by
  unfold reserve
  cases members : k.membersOf (claimedKey coupon) with
  | error e =>
    obtain ⟨s, there, rfl⟩ : ∃ s, k.cell? (claimedKey coupon) = some (.text s) ∧
        e = .wrongKind := by
      unfold Keyspace.membersOf at members
      split at members <;> simp_all
    simp only [Keyspace.isMember, members, Except.map]
    exact .wrongSet there
  | ok users =>
    by_cases holds : user.text ∈ users
    · have found : users.contains user.text = true := by simpa using holds
      simp only [Keyspace.isMember, members, Except.map, found]
      exact .held members holds
    · have absent : users.contains user.text = false := by simpa using holds
      simp only [Keyspace.isMember, members, Except.map, absent]
      cases there : k.cell? (stockKey coupon) with
      | none =>
        have missing : k.get (stockKey coupon) = .ok none := by rw [Keyspace.get, there]
        simp only [missing, Option.bind_none]
        exact .unseeded missing rfl
      | some cell =>
        cases cell with
        | members ms =>
          simp only [Keyspace.get, there]
          exact .wrongStock there
        | text s =>
          have text : k.get (stockKey coupon) = .ok (some s) := by rw [Keyspace.get, there]
          simp only [text, Option.bind_some]
          cases read : Numeral.read? s.toList with
          | none => exact .unseeded text read
          | some stock =>
            cases none : stock.atMost zero with
            | true =>
              simp only [none, if_true]
              exact .empty there read none
            | false =>
              simp only [none, Bool.false_eq_true, if_false]
              exact grant_replies members holds there read none

variable {reply : Reply Int}

/-- Where there is a unit for the user, the script takes it. -/
theorem Replies.of_offers (replies : Replies k coupon user reply after)
    (offers : k.Offers coupon user units) : reply = .ok 1 ∧ k.Grants after coupon user units := by
  obtain ⟨users, free, absent⟩ := offers.members
  obtain ⟨x, number, compared⟩ := Numeral.read?_ofInt units
  rw [decide_eq_false (by have := offers.more; omega)] at compared
  rw [← Decimal.toList_text] at number
  cases replies with
  | wrongSet there => simp [Keyspace.membersOf, there] at free
  | held members holds =>
    cases members.symm.trans free
    exact absurd holds absent
  | wrongStock there => simp [offers.stocked] at there
  | unseeded there unread =>
    obtain rfl : some (Decimal.text units) = _ := by
      simpa [Keyspace.get, offers.stocked] using there
    simp [number] at unread
  | @empty s stock there read none =>
    obtain rfl : Decimal.text units = s := by simpa [offers.stocked] using there
    cases number.symm.trans read
    rw [zero, compared] at none
    contradiction
  | @unwritten s there other =>
    obtain rfl : Decimal.text units = s := by simpa [offers.stocked] using there
    rw [Decimal.toList_text, Decimal.readCanonical?_ofInt offers.fits] at other
    contradiction
  | @granted others after offered grants =>
    have same : Decimal.text others = Decimal.text units := by
      simpa [offered.stocked] using offers.stocked
    exact ⟨rfl, Decimal.text_injective same ▸ grants⟩

/-- A reply of one is a grant, and with any other the script has changed nothing. -/
theorem Replies.granted_or_same (replies : Replies k coupon user reply after) :
    (reply = .ok 1 ∧ ∃ units, k.Offers coupon user units ∧ k.Grants after coupon user units) ∨
      reply ≠ .ok 1 ∧ after = k := by
  cases replies with
  | granted offers grants => exact .inl ⟨rfl, _, offers, grants⟩
  | _ => exact .inr ⟨by simp, rfl⟩

end Script

namespace CounterServer

variable {s : CounterServer}

theorem verdict_claimed_iff {reply : Int} : verdict reply = .ok .claimed ↔ reply = 1 := by
  simp only [verdict, Script.verdict?]
  split_ifs <;> simp_all

/-- A reservation runs the script, unless its command fails, which changes nothing. -/
theorem reserve_of_plain (plain : s.reply = none) (coupon : CouponId) (user : UserId) :
    (s.failing ≠ 0 ∧ (s.reserve coupon user).1 ≠ .ok .claimed ∧
        (s.reserve coupon user).2.keys = s.keys) ∨
      s.failing = 0 ∧
        ((s.reserve coupon user).1 = .ok .claimed ↔
          (Script.reserve s.keys coupon user).1 = .ok 1) ∧
        (s.reserve coupon user).2.keys = (Script.reserve s.keys coupon user).2 := by
  simp only [reserve, runScript_of_plain plain, send]
  cases s.failing with
  | succ n => exact .inl ⟨by simp, by simp, rfl⟩
  | zero =>
    right
    obtain ⟨reply, keys⟩ := Script.reserve s.keys coupon user
    cases reply with
    | error e => exact ⟨rfl, by simp, rfl⟩
    | ok reply => exact ⟨rfl, by simpa using verdict_claimed_iff, rfl⟩

/-- On a keyspace that holds anything at all, a reservation is granted exactly if its command does
not fail, the user is not in the set under the claimed key, which may be missing, and the stock key
holds the written form of a positive integer of 64 bits. Then that integer goes down by one, the
user is added, and no other key changes; with any other answer no key changes at all. The keys of
coupons are all different. -/
theorem reserves_exactly (plain : s.reply = none) (coupon : CouponId) (user : UserId) :
    ((s.reserve coupon user).1 = .ok .claimed ↔
        s.failing = 0 ∧ ∃ units, s.keys.Offers coupon user units) ∧
      (∀ units, (s.reserve coupon user).1 = .ok .claimed → s.keys.Offers coupon user units →
        s.keys.Grants (s.reserve coupon user).2.keys coupon user units) ∧
      ((s.reserve coupon user).1 ≠ .ok .claimed → (s.reserve coupon user).2.keys = s.keys) ∧
      ∀ a b, (stockKey a = stockKey b ↔ a = b) ∧ (claimedKey a = claimedKey b ↔ a = b) ∧
        stockKey a ≠ claimedKey b := by
  have replies := Script.reserve_replies s.keys coupon user
  have apart : ∀ a b, (stockKey a = stockKey b ↔ a = b) ∧ (claimedKey a = claimedKey b ↔ a = b) ∧
      stockKey a ≠ claimedKey b := fun a b =>
    ⟨Script.stockKey_inj, Script.claimedKey_inj, Script.stockKey_ne_claimedKey a b⟩
  rcases reserve_of_plain plain coupon user with ⟨fails, refused, same⟩ | ⟨idle, claimed, keys⟩
  · exact ⟨⟨fun claimed => absurd claimed refused, fun granted => absurd granted.1 fails⟩,
      fun _ claimed => absurd claimed refused, fun _ => same, apart⟩
  · rw [keys]
    refine ⟨⟨?_, ?_⟩, ?_, ?_, apart⟩
    · intro granted
      rcases replies.granted_or_same with ⟨_, units, offers, _⟩ | ⟨refused, _⟩
      · exact ⟨idle, units, offers⟩
      · exact absurd (claimed.mp granted) refused
    · rintro ⟨_, units, offers⟩
      exact claimed.mpr (replies.of_offers offers).1
    · intro units _ offers
      exact (replies.of_offers offers).2
    · intro refused
      rcases replies.granted_or_same with ⟨granted, _⟩ | ⟨_, same⟩
      · exact absurd (claimed.mpr granted) refused
      · exact same

/-- A server on which the stock of one coupon is written in some way. -/
def stockedAs (digits : String) : CounterServer :=
  ⟨Keyspace.empty.set (stockKey ⟨1⟩) digits, 0, none⟩

/-- Of these numerals, all above zero, only the first is in canonical form. -/
theorem reserves_exactly_spellings :
    ((stockedAs "5").reserve ⟨1⟩ ⟨7⟩).1 = .ok .claimed ∧
      (stockedAs "5").keys.Grants ((stockedAs "5").reserve ⟨1⟩ ⟨7⟩).2.keys ⟨1⟩ ⟨7⟩ 5 ∧
      ∀ digits ∈ [" 5 ", "+5", "0x10", "1e3", "0.5"],
        (Numeral.read? digits.toList).any (!·.atMost Script.zero) = true ∧
          ((stockedAs digits).reserve ⟨1⟩ ⟨7⟩).1 =
            .error (unavailable "execute reserve script") ∧
          ((stockedAs digits).reserve ⟨1⟩ ⟨7⟩).2.keys = (stockedAs digits).keys := by
  have offers : (stockedAs "5").keys.Offers ⟨1⟩ ⟨7⟩ 5 :=
    ⟨.inl (by decide +kernel), by decide +kernel, by decide, by decide⟩
  have exact := reserves_exactly (s := stockedAs "5") rfl ⟨1⟩ ⟨7⟩
  have claimed := exact.1.mpr ⟨rfl, 5, offers⟩
  refine ⟨claimed, exact.2.1 5 claimed offers, ?_⟩
  have refused : ∀ digits ∈ [" 5 ", "+5", "0x10", "1e3", "0.5"],
      (Numeral.read? digits.toList).any (!·.atMost Script.zero) = true ∧
        ((stockedAs digits).reserve ⟨1⟩ ⟨7⟩).1 =
          .error (unavailable "execute reserve script") := by decide +kernel
  intro digits member
  obtain ⟨above, answer⟩ := refused digits member
  refine ⟨above, answer, (reserves_exactly rfl ⟨1⟩ ⟨7⟩).2.2.1 ?_⟩
  rw [answer]
  simp

end CounterServer
end CouponSale
