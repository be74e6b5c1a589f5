import CouponSale.Claim
import CouponSale.Proofs.Json.Text
import CouponSale.Proofs.Time.Stamp
import CouponSale.Settings
import Mathlib.Data.List.Nodup

/-!
Coupons, claims and settings as JSON. Each is read back from its text: a record from its fields,
found by their names, a label from its own string, and the fields from the values of their types.
-/
namespace CouponSale

namespace Json

attribute [simp] Plain.bool Plain.int Plain.str

@[simp]
theorem plain_ofNat (n : Nat) : Plain (ofNat n) := .int n

@[simp]
theorem plain_ofMoment (m : Moment) : Plain (ofMoment m) := .str _

@[simp]
theorem plain_obj {ms : List (String × Json)} : Plain (obj ms) ↔ ∀ m ∈ ms, Plain m.2 :=
  ⟨fun | .obj plain => plain, .obj⟩

theorem under_cons (name : String) (m : String × Json) (ms : List (String × Json)) :
    under name (m :: ms) = if m.1 = name then m.2 :: under name ms else under name ms := by
  by_cases same : m.1 = name <;> simp [under, same]

theorem under_eq_nil {name : String} {ms : List (String × Json)}
    (absent : name ∉ ms.map Prod.fst) : under name ms = [] := by
  refine List.filterMap_eq_nil_iff.mpr fun m member => if_neg ?_
  rintro rfl
  exact absent (List.mem_map_of_mem member)

/-- A field with a name of its own is found. -/
theorem once?_of_mem {ms : List (String × Json)} (distinct : (ms.map Prod.fst).Nodup)
    {m : String × Json} (member : m ∈ ms) : once? ms m.1 = some m.2 := by
  have found : under m.1 ms = [m.2] := by
    induction ms with
    | nil => contradiction
    | cons w ms ih =>
      obtain ⟨fresh, distinct⟩ := List.nodup_cons.mp distinct
      rcases List.mem_cons.mp member with rfl | later
      · rw [under_cons, if_pos rfl, under_eq_nil fresh]
      · have other : w.1 ≠ m.1 := fun same => fresh (same ▸ List.mem_map_of_mem later)
        rw [under_cons, if_neg other, ih distinct later]
  rw [once?, found]

theorem mapM_fst_of_forall {f : String → Option Json} {ms : List (String × Json)}
    (found : ∀ m ∈ ms, f m.1 = some m.2) : (ms.map Prod.fst).mapM f = some (ms.map Prod.snd) := by
  induction ms with
  | nil => rfl
  | cons m ms ih =>
    rw [List.map_cons, List.mapM_cons, found m List.mem_cons_self,
      ih fun w member => found w (List.mem_cons_of_mem m member)]
    rfl

/-- What is read from a record's fields is read from an object of them. -/
theorem record?_obj_bind {α : Type} {names : List String} {ms : List (String × Json)}
    {read : List Json → Option α} {v : α} (named : ms.map Prod.fst = names)
    (distinct : names.Nodup) (back : read (ms.map Prod.snd) = some v) :
    ((obj ms).record? names).bind read = some v := by
  subst named
  have found : ∀ m ∈ ms, once? ms m.1 = some m.2 := fun m => once?_of_mem distinct
  rw [record?, mapM_fst_of_forall found, Option.bind_some, back]

@[simp]
theorem text?_str (s : String) : (str s).text? = some s := rfl

@[simp]
theorem bool?_bool (b : Bool) : (bool b).bool? = some b := rfl

theorem int64?_int {i : Int} (fits : InInt64 i) : (int i).int64? = some i := if_pos fits

theorem moment?_ofMoment {m : Moment} (stampable : m.Stampable) :
    (ofMoment m).moment? = some m := by
  rw [moment?, ofMoment, text?, Option.bind_some, Stamp.ofText?, Stamp.text, String.toList_ofList]
  exact Stamp.read?_write stampable

theorem natWithin?_ofNat {top n : Nat} (fits : n ≤ top) : (ofNat n).natWithin? top = some n := by
  have range : (0 : Int) ≤ n ∧ (n : Int) ≤ top := ⟨by omega, by omega⟩
  rw [natWithin?, ofNat, intWithin?, if_pos range]
  rfl

@[simp]
theorem word16?_ofNat (w : UInt16) : (ofNat w.toNat).word16? = some w := by
  have small : w.toNat ≤ 65535 := Nat.le_of_lt_succ w.toNat_lt
  rw [word16?, natWithin?_ofNat small, Option.map_some, UInt16.ofNat_toNat]

@[simp]
theorem word32?_ofNat (w : UInt32) : (ofNat w.toNat).word32? = some w := by
  have small : w.toNat ≤ maxUInt32 := Nat.le_of_lt_succ w.toNat_lt
  rw [word32?, natWithin?_ofNat small, Option.map_some, UInt32.ofNat_toNat]

@[simp]
theorem word64?_ofNat (w : UInt64) : (ofNat w.toNat).word64? = some w := by
  have small : w.toNat ≤ maxUInt64 := Nat.le_of_lt_succ w.toNat_lt
  rw [word64?, natWithin?_ofNat small, Option.map_some, UInt64.ofNat_toNat]

/-- A value is read back from its text if it is read back from its JSON. -/
theorem ofText?_text_bind {α : Type} {ofJson? : Json → Option α} {json : Json} {v : α}
    (plain : json.Plain) (back : ofJson? json = some v) :
    (ofText? json.text).bind ofJson? = some v := by
  rw [ofText?_text plain, Option.bind_some, back]

end Json

theorem CouponId.ofJson?_toJson {c : CouponId} (fits : InInt64 c.number) :
    ofJson? c.toJson = some c := by
  rw [ofJson?, toJson, Json.int64?_int fits, Option.map_some]

theorem CouponId.plain_toJson (c : CouponId) : c.toJson.Plain := .int c.number

theorem UserId.ofJson?_toJson {u : UserId} (fits : InInt64 u.number) :
    ofJson? u.toJson = some u := by
  rw [ofJson?, toJson, Json.int64?_int fits, Option.map_some]

theorem UserId.plain_toJson (u : UserId) : u.toJson.Plain := .int u.number

theorem ClaimStatus.ofJson?_toJson (s : ClaimStatus) : ofJson? s.toJson = some s := by
  cases s <;> rfl

theorem Outcome.ofJson?_toJson (o : Outcome) : ofJson? o.toJson = some o := by
  cases o <;> rfl

theorem ResponseCode.ofJson?_toJson (r : ResponseCode) : ofJson? r.toJson = some r := by
  cases r <;> rfl

namespace NewCoupon

/-- The numbers are of 64 bits, and the moments have stamps. -/
structure Portable (c : NewCoupon) : Prop where
  total : InInt64 c.total
  amount : InInt64 c.amount
  start : c.start.Stampable
  finish : c.finish.Stampable

theorem ofJson?_toJson {c : NewCoupon} (portable : c.Portable) : ofJson? c.toJson = some c := by
  obtain ⟨total, amount, start, finish⟩ := portable
  unfold ofJson? toJson
  refine Json.record?_obj_bind rfl (by decide) ?_
  simp [Json.int64?_int, Json.moment?_ofMoment, *]

theorem plain_toJson (c : NewCoupon) : c.toJson.Plain := by
  simp [toJson]

end NewCoupon

namespace Coupon

/-- The numbers are of 64 bits, and the moments have stamps. -/
structure Portable (c : Coupon) : Prop where
  id : InInt64 c.id.number
  total : InInt64 c.total
  stock : InInt64 c.stock
  amount : InInt64 c.amount
  start : c.start.Stampable
  finish : c.finish.Stampable
  created : c.created.Stampable

theorem ofJson?_toJson {c : Coupon} (portable : c.Portable) : ofJson? c.toJson = some c := by
  obtain ⟨id, total, stock, amount, start, finish, created⟩ := portable
  unfold ofJson? toJson
  refine Json.record?_obj_bind rfl (by decide) ?_
  simp [CouponId.ofJson?_toJson, Json.int64?_int, Json.moment?_ofMoment, *]

theorem plain_toJson (c : Coupon) : c.toJson.Plain := by
  simp [toJson, CouponId.plain_toJson]

end Coupon

namespace ClaimRecord

/-- The numbers are of 64 bits, and the moment has a stamp. -/
structure Portable (r : ClaimRecord) : Prop where
  user : InInt64 r.user.number
  coupon : InInt64 r.coupon.number
  claimed : r.claimed.Stampable

theorem ofJson?_toJson {r : ClaimRecord} (portable : r.Portable) : ofJson? r.toJson = some r := by
  obtain ⟨user, coupon, claimed⟩ := portable
  unfold ofJson? toJson
  refine Json.record?_obj_bind rfl (by decide) ?_
  simp [UserId.ofJson?_toJson, CouponId.ofJson?_toJson, ClaimStatus.ofJson?_toJson,
    Json.moment?_ofMoment, *]

theorem plain_toJson (r : ClaimRecord) : r.toJson.Plain := by
  simp [toJson, UserId.plain_toJson, CouponId.plain_toJson, ClaimStatus.toJson]

end ClaimRecord

theorem DatabaseSettings.ofJson?_toJson (s : DatabaseSettings) : ofJson? s.toJson = some s := by
  unfold ofJson? toJson
  refine Json.record?_obj_bind rfl (by decide) ?_
  simp

theorem CounterSettings.ofJson?_toJson (s : CounterSettings) : ofJson? s.toJson = some s := by
  unfold ofJson? toJson
  refine Json.record?_obj_bind rfl (by decide) ?_
  simp

theorem WorkerSettings.ofJson?_toJson (s : WorkerSettings) : ofJson? s.toJson = some s := by
  unfold ofJson? toJson
  refine Json.record?_obj_bind rfl (by decide) ?_
  simp

theorem ServerSettings.ofJson?_toJson (s : ServerSettings) : ofJson? s.toJson = some s := by
  unfold ofJson? toJson
  refine Json.record?_obj_bind rfl (by decide) ?_
  simp

theorem LetterSettings.ofJson?_toJson (s : LetterSettings) : ofJson? s.toJson = some s := by
  unfold ofJson? toJson
  refine Json.record?_obj_bind rfl (by decide) ?_
  simp

theorem Json.int64?_toInt (w : Int64) : (Json.int w.toInt).int64? = some w.toInt := by
  have low := w.le_toInt
  have high := w.toInt_lt
  refine int64?_int ?_
  unfold InInt64 minInt64 maxInt64
  omega

theorem DemoSettings.ofJson?_toJson (s : DemoSettings) : ofJson? s.toJson = some s := by
  unfold ofJson? toJson
  refine Json.record?_obj_bind rfl (by decide) ?_
  simp [Json.int64?_toInt]

namespace Settings

theorem ofJson?_toJson (s : Settings) : ofJson? s.toJson = some s := by
  unfold ofJson? toJson
  refine Json.record?_obj_bind rfl (by decide) ?_
  simp [DatabaseSettings.ofJson?_toJson, CounterSettings.ofJson?_toJson,
    WorkerSettings.ofJson?_toJson, ServerSettings.ofJson?_toJson, LetterSettings.ofJson?_toJson,
    DemoSettings.ofJson?_toJson]

theorem plain_toJson (s : Settings) : s.toJson.Plain := by
  simp [toJson, DatabaseSettings.toJson, CounterSettings.toJson, WorkerSettings.toJson,
    ServerSettings.toJson, LetterSettings.toJson, DemoSettings.toJson]

end Settings

/-- Coupons, claims and settings, and what they are made of, are read back from their text. Their
numbers are those of 64 bits and their moments lie in years from 0 to 9999, leap seconds among them;
any character may be in a string. -/
theorem values_read_back :
    (∀ c : Coupon, c.Portable → (Json.ofText? c.toJson.text).bind Coupon.ofJson? = some c) ∧
    (∀ c : NewCoupon, c.Portable → (Json.ofText? c.toJson.text).bind NewCoupon.ofJson? = some c) ∧
    (∀ r : ClaimRecord, r.Portable →
      (Json.ofText? r.toJson.text).bind ClaimRecord.ofJson? = some r) ∧
    (∀ s : ClaimStatus, (Json.ofText? s.toJson.text).bind ClaimStatus.ofJson? = some s) ∧
    (∀ o : Outcome, (Json.ofText? o.toJson.text).bind Outcome.ofJson? = some o) ∧
    (∀ r : ResponseCode, (Json.ofText? r.toJson.text).bind ResponseCode.ofJson? = some r) ∧
    (∀ c : CouponId, InInt64 c.number →
      (Json.ofText? c.toJson.text).bind CouponId.ofJson? = some c) ∧
    (∀ u : UserId, InInt64 u.number →
      (Json.ofText? u.toJson.text).bind UserId.ofJson? = some u) ∧
    ∀ s : Settings, (Json.ofText? s.toJson.text).bind Settings.ofJson? = some s := by
  refine ⟨?coupon, ?request, ?claim, ?status, ?outcome, ?code, ?couponId, ?userId, ?settings⟩
  case coupon =>
    intro c portable
    exact Json.ofText?_text_bind c.plain_toJson (Coupon.ofJson?_toJson portable)
  case request =>
    intro c portable
    exact Json.ofText?_text_bind c.plain_toJson (NewCoupon.ofJson?_toJson portable)
  case claim =>
    intro r portable
    exact Json.ofText?_text_bind r.plain_toJson (ClaimRecord.ofJson?_toJson portable)
  case status => exact fun s => Json.ofText?_text_bind (.str s.label) s.ofJson?_toJson
  case outcome => exact fun o => Json.ofText?_text_bind (.str o.label) o.ofJson?_toJson
  case code => exact fun r => Json.ofText?_text_bind (.str r.label) r.ofJson?_toJson
  case couponId =>
    intro c fits
    exact Json.ofText?_text_bind c.plain_toJson (CouponId.ofJson?_toJson fits)
  case userId =>
    intro u fits
    exact Json.ofText?_text_bind u.plain_toJson (UserId.ofJson?_toJson fits)
  case settings => exact fun s => Json.ofText?_text_bind s.plain_toJson s.ofJson?_toJson

/-- From the leap second at the end of 2016 to the end of the last year, under a name with
characters to escape and characters beyond ASCII. -/
def NewCoupon.leapSale : NewCoupon where
  name := "\"Größe\\𝕏\"\n\u0001"
  total := 9223372036854775807
  amount := -9223372036854775808
  start := ⟨1483228799, 1000000120⟩
  finish := ⟨253402300799, 999999999⟩

theorem values_read_back_leapSale :
    NewCoupon.leapSale.Portable ∧
    (Json.ofText? NewCoupon.leapSale.toJson.text).bind NewCoupon.ofJson? =
      some NewCoupon.leapSale := by
  have start : NewCoupon.leapSale.start.Stampable := ⟨by decide, .inr (by decide)⟩
  have finish : NewCoupon.leapSale.finish.Stampable := ⟨by decide, .inl (by decide)⟩
  have portable : NewCoupon.leapSale.Portable := ⟨by decide, by decide, start, finish⟩
  exact ⟨portable, values_read_back.2.1 NewCoupon.leapSale portable⟩

end CouponSale
