import CouponSale.Proofs.Text.Spelling
import CouponSale.Settings
import Mathlib.Data.List.Nodup
import Mathlib.Logic.Function.Basic

/-!
Settings and their variables. Every field has a variable of its own, of which the text is read as
the type of the field says; so a variable touches its own field only, and settings written as
variables are read back.
-/
namespace CouponSale.Settings

/-- The types of fields. -/
inductive Kind where
  | text
  | word16
  | word32
  | word64
  | integer
  | flag

namespace Kind

def Value : Kind → Type
  | text => String
  | word16 => UInt16
  | word32 => UInt32
  | word64 => UInt64
  | integer => Int64
  | flag => Bool

/-- The texts of a value: any spelling of a number in the range of its type, one text only for
anything else. -/
def Spells : (kind : Kind) → String → kind.Value → Prop
  | text, s, value => s = value
  | word16, s, value => Decimal.SpellsUnsigned s.toList (UInt16.toNat value)
  | word32, s, value => Decimal.SpellsUnsigned s.toList (UInt32.toNat value)
  | word64, s, value => Decimal.SpellsUnsigned s.toList (UInt64.toNat value)
  | integer, s, value => Decimal.SpellsSigned s.toList (Int64.toInt value)
  | flag, s, value => s = "true" ∧ value = true ∨ s = "false" ∧ value = false

def read? : (kind : Kind) → String → Option kind.Value
  | text, s => some s
  | word16, s => (Decimal.readUnsigned? 65535 s.toList).map UInt16.ofNat
  | word32, s => (Decimal.readUnsigned? maxUInt32 s.toList).map UInt32.ofNat
  | word64, s => (Decimal.readUnsigned? maxUInt64 s.toList).map UInt64.ofNat
  | integer, s => (Decimal.readInt64? s.toList).map Int64.ofInt
  | flag, s => readFlag? s

def write : (kind : Kind) → kind.Value → String
  | text, value => value
  | word16, value => writeNat (UInt16.toNat value)
  | word32, value => writeNat (UInt32.toNat value)
  | word64, value => writeNat (UInt64.toNat value)
  | integer, value => Decimal.text (Int64.toInt value)
  | flag, value => writeFlag value

/-- A reader of words takes just the spellings of the words. -/
theorem map_readUnsigned?_eq_some_iff {α : Type} {top : Nat} {ofNat : Nat → α} {toNat : α → Nat}
    (small : ∀ word, toNat word ≤ top) (back : ∀ word, ofNat (toNat word) = word)
    (forth : ∀ n ≤ top, toNat (ofNat n) = n) {cs : List Char} {word : α} :
    (Decimal.readUnsigned? top cs).map ofNat = some word ↔
      Decimal.SpellsUnsigned cs (toNat word) := by
  rw [Option.map_eq_some_iff]
  constructor
  · rintro ⟨n, read, rfl⟩
    obtain ⟨spells, bound⟩ := Decimal.readUnsigned?_eq_some_iff.mp read
    rwa [forth n bound]
  · intro spells
    exact ⟨toNat word, Decimal.readUnsigned?_eq_some_iff.mpr ⟨spells, small word⟩, back word⟩

theorem map_readInt64?_eq_some_iff {cs : List Char} {word : Int64} :
    (Decimal.readInt64? cs).map Int64.ofInt = some word ↔
      Decimal.SpellsSigned cs word.toInt := by
  have low := word.le_toInt
  have high := word.toInt_lt
  rw [Option.map_eq_some_iff, Decimal.readInt64?]
  constructor
  · rintro ⟨i, read, rfl⟩
    obtain ⟨spells, above, below⟩ := Decimal.readSigned?_eq_some_iff.mp read
    unfold minInt64 at above
    unfold maxInt64 at below
    rwa [Int64.toInt_ofInt_of_le (by omega) (by omega)]
  · intro spells
    refine ⟨word.toInt, Decimal.readSigned?_eq_some_iff.mpr ⟨spells, ?_⟩, word.ofInt_toInt⟩
    unfold minInt64 maxInt64
    omega

theorem readFlag?_eq_some_iff {s : String} {value : Bool} :
    readFlag? s = some value ↔ s = "true" ∧ value = true ∨ s = "false" ∧ value = false := by
  unfold readFlag?
  by_cases on : s = "true"
  · simp [on, eq_comm]
  · by_cases off : s = "false" <;> simp [on, off, eq_comm]

/-- The reader of a type takes just the texts of its values. -/
theorem read?_eq_some_iff {kind : Kind} {s : String} {value : kind.Value} :
    kind.read? s = some value ↔ kind.Spells s value := by
  cases kind with
  | text => exact Option.some_inj
  | word16 =>
    exact map_readUnsigned?_eq_some_iff (fun word => Nat.le_of_lt_succ (UInt16.toNat_lt word))
      (fun _ => UInt16.ofNat_toNat)
      (fun _ bound => UInt16.toNat_ofNat_of_lt' (Nat.lt_succ_of_le bound))
  | word32 =>
    exact map_readUnsigned?_eq_some_iff (fun word => Nat.le_of_lt_succ (UInt32.toNat_lt word))
      (fun _ => UInt32.ofNat_toNat)
      (fun _ bound => UInt32.toNat_ofNat_of_lt' (Nat.lt_succ_of_le bound))
  | word64 =>
    exact map_readUnsigned?_eq_some_iff (fun word => Nat.le_of_lt_succ (UInt64.toNat_lt word))
      (fun _ => UInt64.ofNat_toNat)
      (fun _ bound => UInt64.toNat_ofNat_of_lt' (Nat.lt_succ_of_le bound))
  | integer => exact map_readInt64?_eq_some_iff
  | flag => exact readFlag?_eq_some_iff

theorem spellsUnsigned_writeNat (n : Nat) : Decimal.SpellsUnsigned (writeNat n).toList n := by
  rw [writeNat, Decimal.toList_text]
  exact Decimal.spellsUnsigned_ofNat n

/-- The written form of a value is one of its texts. -/
theorem spells_write (kind : Kind) (value : kind.Value) : kind.Spells (kind.write value) value := by
  cases kind with
  | text => rfl
  | word16 => exact spellsUnsigned_writeNat _
  | word32 => exact spellsUnsigned_writeNat _
  | word64 => exact spellsUnsigned_writeNat _
  | integer =>
    rw [Spells, write, Decimal.toList_text]
    exact Decimal.spellsSigned_ofInt _
  | flag =>
    cases value with
    | false => exact .inr ⟨rfl, rfl⟩
    | true => exact .inl ⟨rfl, rfl⟩

/-- The value that a variable of this type gives to its field. -/
def take : (kind : Kind) → Lookup → String → kind.Value → kind.Value
  | text => Settings.text
  | word16 => Settings.word16
  | word32 => Settings.word32
  | word64 => Settings.word64
  | integer => Settings.integer
  | flag => Settings.flag

theorem take_eq (kind : Kind) (lookup : Lookup) (name : String) (initial : kind.Value) :
    kind.take lookup name initial = ((lookup name).bind kind.read?).getD initial := by
  cases kind with
  | text => simp only [take, Settings.text]; cases lookup name <;> rfl
  | word16 => simp only [take, Settings.word16]; cases lookup name <;> rfl
  | word32 => simp only [take, Settings.word32]; cases lookup name <;> rfl
  | word64 => simp only [take, Settings.word64]; cases lookup name <;> rfl
  | integer => simp only [take, Settings.integer]; cases lookup name <;> rfl
  | flag => rfl

end Kind

/-- The variables, one for each field. -/
inductive Variable where
  | databaseUrl
  | databaseMaxConnections
  | databaseMinConnections
  | databaseConnectTimeout
  | redisUrl
  | redisReserveTimeoutMs
  | poolWorkers
  | poolQueueCapacity
  | poolRetryQueueCapacity
  | poolMaxRetries
  | poolBaseDelayMs
  | rustLog
  | metricsHost
  | metricsPort
  | shutdownTimeout
  | deadLetterPersist
  | demoStock
  | demoUsers
  | demoConcurrency

namespace Variable

def all : List Variable :=
  [databaseUrl, databaseMaxConnections, databaseMinConnections, databaseConnectTimeout, redisUrl,
    redisReserveTimeoutMs, poolWorkers, poolQueueCapacity, poolRetryQueueCapacity, poolMaxRetries,
    poolBaseDelayMs, rustLog, metricsHost, metricsPort, shutdownTimeout, deadLetterPersist,
    demoStock, demoUsers, demoConcurrency]

def name : Variable → String
  | databaseUrl => "DATABASE_URL"
  | databaseMaxConnections => "DATABASE_MAX_CONNECTIONS"
  | databaseMinConnections => "DATABASE_MIN_CONNECTIONS"
  | databaseConnectTimeout => "DATABASE_CONNECT_TIMEOUT"
  | redisUrl => "REDIS_URL"
  | redisReserveTimeoutMs => "REDIS_RESERVE_TIMEOUT_MS"
  | poolWorkers => "POOL_WORKERS"
  | poolQueueCapacity => "POOL_QUEUE_CAPACITY"
  | poolRetryQueueCapacity => "POOL_RETRY_QUEUE_CAPACITY"
  | poolMaxRetries => "POOL_MAX_RETRIES"
  | poolBaseDelayMs => "POOL_BASE_DELAY_MS"
  | rustLog => "RUST_LOG"
  | metricsHost => "METRICS_HOST"
  | metricsPort => "METRICS_PORT"
  | shutdownTimeout => "SHUTDOWN_TIMEOUT"
  | deadLetterPersist => "DEAD_LETTER_PERSIST"
  | demoStock => "DEMO_STOCK"
  | demoUsers => "DEMO_USERS"
  | demoConcurrency => "DEMO_CONCURRENCY"

def kind : Variable → Kind
  | databaseUrl | redisUrl | rustLog | metricsHost => .text
  | metricsPort => .word16
  | databaseMaxConnections | databaseMinConnections | poolMaxRetries => .word32
  | databaseConnectTimeout | redisReserveTimeoutMs | poolWorkers | poolQueueCapacity
  | poolRetryQueueCapacity | poolBaseDelayMs | shutdownTimeout | demoConcurrency => .word64
  | demoStock | demoUsers => .integer
  | deadLetterPersist => .flag

/-- The field that a variable names. -/
def field : (v : Variable) → Settings → v.kind.Value
  | databaseUrl, s => s.database.url
  | databaseMaxConnections, s => s.database.maxConnections
  | databaseMinConnections, s => s.database.minConnections
  | databaseConnectTimeout, s => s.database.connectTimeout
  | redisUrl, s => s.counter.url
  | redisReserveTimeoutMs, s => s.counter.reserveTimeoutMs
  | poolWorkers, s => s.pool.workers
  | poolQueueCapacity, s => s.pool.queueCapacity
  | poolRetryQueueCapacity, s => s.pool.retryQueueCapacity
  | poolMaxRetries, s => s.pool.maxRetries
  | poolBaseDelayMs, s => s.pool.baseDelayMs
  | rustLog, s => s.server.logLevel
  | metricsHost, s => s.server.metricsHost
  | metricsPort, s => s.server.metricsPort
  | shutdownTimeout, s => s.server.shutdownTimeout
  | deadLetterPersist, s => s.letters.persist
  | demoStock, s => s.demo.stock
  | demoUsers, s => s.demo.users
  | demoConcurrency, s => s.demo.concurrency

/-- What a field is when no variable is set. -/
def initial (v : Variable) : v.kind.Value := v.field (ofLookup fun _ => none)

theorem mem_all (v : Variable) : v ∈ all := by
  cases v <;> simp [all]

theorem name_injective : Function.Injective name := by
  have different : (all.map name).Nodup := by decide +kernel
  intro v w same
  exact List.inj_on_of_nodup_map different v.mem_all w.mem_all same

end Variable

/-- The settings with the given fields. -/
def ofFields (value : (v : Variable) → v.kind.Value) : Settings where
  database :=
    { url := value .databaseUrl
      maxConnections := value .databaseMaxConnections
      minConnections := value .databaseMinConnections
      connectTimeout := value .databaseConnectTimeout }
  counter :=
    { url := value .redisUrl
      reserveTimeoutMs := value .redisReserveTimeoutMs }
  pool :=
    { workers := value .poolWorkers
      queueCapacity := value .poolQueueCapacity
      retryQueueCapacity := value .poolRetryQueueCapacity
      maxRetries := value .poolMaxRetries
      baseDelayMs := value .poolBaseDelayMs }
  server :=
    { logLevel := value .rustLog
      metricsHost := value .metricsHost
      metricsPort := value .metricsPort
      shutdownTimeout := value .shutdownTimeout }
  letters := { persist := value .deadLetterPersist }
  demo :=
    { stock := value .demoStock
      users := value .demoUsers
      concurrency := value .demoConcurrency }

/-- The fields are all there is to settings. -/
theorem eq_of_fields {s t : Settings} (same : ∀ v : Variable, v.field s = v.field t) : s = t :=
  calc s
      = ofFields fun v => v.field s := rfl
    _ = ofFields fun v => v.field t := congrArg ofFields (funext same)
    _ = t := rfl

/-- A field is what the text of its variable is read as, and its initial value if there is no text
or the text is not one of a value. -/
theorem field_ofLookup (lookup : Lookup) (v : Variable) :
    v.field (ofLookup lookup) = ((lookup v.name).bind v.kind.read?).getD v.initial := by
  rw [← Kind.take_eq]
  cases v <;> rfl

theorem toVariables_eq (s : Settings) :
    s.toVariables = Variable.all.map fun v => (v.name, v.kind.write (v.field s)) := rfl

/-- Variables written with their texts are found by their names. -/
theorem lookup_map_name {text : Variable → String} {v : Variable} {vs : List Variable}
    (member : v ∈ vs) : (vs.map fun w => (w.name, text w)).lookup v.name = some (text v) := by
  induction vs with
  | nil => contradiction
  | cons w vs ih =>
    rw [List.map_cons, List.lookup_cons]
    by_cases same : v.name = w.name
    · rw [Variable.name_injective same]
      simp
    · have other : v ≠ w := fun equal => same (congrArg Variable.name equal)
      have differs : (v.name == w.name) = false := beq_eq_false_iff_ne.mpr same
      simp only [differs]
      exact ih (List.mem_of_ne_of_mem other member)

theorem lookupIn_toVariables (s : Settings) (v : Variable) :
    lookupIn s.toVariables v.name = some (v.kind.write (v.field s)) := by
  rw [lookupIn, toVariables_eq]
  exact lookup_map_name v.mem_all

/-- A variable with a text of a value gives its field that value. -/
theorem field_of_spells {lookup : Lookup} {v : Variable} {text : String} {value : v.kind.Value}
    (holds : lookup v.name = some text) (spells : v.kind.Spells text value) :
    v.field (ofLookup lookup) = value := by
  rw [field_ofLookup, holds, Option.bind_some, Kind.read?_eq_some_iff.mpr spells, Option.getD_some]

/-- A variable without such a text leaves its field at the initial value. -/
theorem field_of_not_spells {lookup : Lookup} {v : Variable}
    (none : ∀ text value, lookup v.name = some text → ¬ v.kind.Spells text value) :
    v.field (ofLookup lookup) = v.initial := by
  have refused : (lookup v.name).bind v.kind.read? = .none := by
    refine Option.bind_eq_none_iff.mpr fun text holds => ?_
    exact Option.eq_none_iff_forall_ne_some.mpr fun value read =>
      none text value holds (Kind.read?_eq_some_iff.mp read)
  rw [field_ofLookup, refused, Option.getD_none]

/-- A field depends on its own variable only. -/
theorem field_congr {lookup lookup' : Lookup} {v : Variable}
    (same : lookup v.name = lookup' v.name) :
    v.field (ofLookup lookup) = v.field (ofLookup lookup') := by
  rw [field_ofLookup, field_ofLookup, same]

theorem ofLookup_toVariables (s : Settings) : ofLookup (lookupIn s.toVariables) = s :=
  eq_of_fields fun v => field_of_spells (lookupIn_toVariables s v) (v.kind.spells_write _)

/-- Settings are read back from the variables that they are written as; and what one variable says
goes to the one field that it names. A text of a value of the field's type gives that value, any
other text and no text give the initial value, and all other fields stay as they are; a variable
that names no field changes nothing. -/
theorem variables_govern_fields :
    (∀ s : Settings, ofLookup (lookupIn s.toVariables) = s) ∧
    (∀ s t : Settings, (∀ v : Variable, v.field s = v.field t) → s = t) ∧
    (∀ v w : Variable, v.name = w.name → v = w) ∧
    ∀ (lookup : Lookup) (name : String) (text : Option String),
      let changed := ofLookup (Function.update lookup name text)
      (∀ v : Variable, v.name ≠ name → v.field changed = v.field (ofLookup lookup)) ∧
      ∀ v : Variable, v.name = name →
        (∀ s value, text = some s → v.kind.Spells s value → v.field changed = value) ∧
        ((∀ s value, text = some s → ¬ v.kind.Spells s value) → v.field changed = v.initial) := by
  refine ⟨ofLookup_toVariables, fun s t => eq_of_fields,
    fun v w same => Variable.name_injective same, fun lookup name text => ⟨?_, ?_⟩⟩
  · intro v other
    exact field_congr (Function.update_of_ne other text lookup)
  · rintro v rfl
    have holds : Function.update lookup v.name text v.name = text :=
      Function.update_self v.name text lookup
    constructor
    · intro s value there spells
      exact field_of_spells (holds.trans there) spells
    · intro none
      exact field_of_not_spells fun s value there => none s value (holds.symm.trans there)

/-- A plus sign and a leading zero are part of a spelling; a number past the range of its type has
none. -/
theorem variables_govern_fields_sixteen :
    (ofLookup (Function.update (fun _ => none) "POOL_WORKERS" (some "+016"))).pool.workers = 16 ∧
    (ofLookup (Function.update (fun _ => none) "POOL_WORKERS"
      (some "18446744073709551616"))).pool.workers = 4 := by
  obtain ⟨_, _, _, governs⟩ := variables_govern_fields
  obtain ⟨spelled, _⟩ := (governs (fun _ => none) "POOL_WORKERS" (some "+016")).2 .poolWorkers rfl
  obtain ⟨_, unspelled⟩ := (governs (fun _ => none) "POOL_WORKERS"
    (some "18446744073709551616")).2 .poolWorkers rfl
  have read : (Decimal.readUnsigned? maxUInt64 "+016".toList).map UInt64.ofNat = some 16 := by
    decide +kernel
  have refused : (Decimal.readUnsigned? maxUInt64 "18446744073709551616".toList).map
      UInt64.ofNat = none := by decide +kernel
  constructor
  · exact spelled "+016" (16 : UInt64) rfl (@Kind.read?_eq_some_iff .word64 _ _ |>.mp read)
  · refine unspelled fun s value there spells => ?_
    obtain rfl := Option.some.inj there
    have taken := (@Kind.read?_eq_some_iff .word64 _ _).mpr spells
    exact absurd (refused.symm.trans taken) (by simp)

end CouponSale.Settings
