import InterlockLadder.Proofs.Isolation

/-! How the sensor of a condition is found. A convention asks for a name, and a table may hold many
sensors of that name. Only the first one in sight is looked at, so that it alone decides whether
there is a rung (`Convention.resolve?_of_find?`): a later sensor of the name does not stand in for
one without an address. -/

namespace InterlockLadder

namespace Convention

variable {s : Scope} {v : Convention} {sensor : Sensor} {address : String}

/-- The sensor is in sight, and its name and the key differ in surrounding white space at most. -/
def IsNamed (s : Scope) (v : Convention) (sensor : Sensor) : Prop :=
  (s.cylinder.plc = none ∨ sensor.plc = s.cylinder.plc) ∧
    Text.trim sensor.name = Text.trim (v.key s)

/-- The addresses of a sensor that the convention can use. -/
inductive IsUsable : Convention → Sensor → String → Prop
  | plain {v : Convention} {sensor : Sensor} (h : Text.isBlank sensor.address = false) :
      IsUsable v sensor (Text.trim sensor.address)
  | alternate {sensor : Sensor} {text : String} (h : sensor.altAddress = some text)
      (hblank : Text.isBlank text = false) : IsUsable .memoryBit sensor (Text.trim text)

structure IsEligible (s : Scope) (v : Convention) (sensor : Sensor) : Prop where
  named : v.IsNamed s sensor
  usable : ∃ address, v.IsUsable sensor address

/-- The address by which the convention reads the sensor is one that it can use, and the alternate
one where it prefers that. -/
structure Reads (v : Convention) (sensor : Sensor) (address : String) : Prop where
  usable : v.IsUsable sensor address
  alternate : v = .memoryBit → ∀ text, sensor.altAddress = some text →
    Text.isBlank text = false → address = Text.trim text

/-- There is no white space around the key. -/
def HasTrimmedKey (s : Scope) (v : Convention) : Prop :=
  Text.trim (v.key s) = v.key s

theorem reads_of_address? (h : v.address? sensor = some address) : v.Reads sensor address := by
  cases v with
  | alarm =>
    obtain ⟨hblank, rfl⟩ := Text.nonBlank?_eq_some_iff.mp h
    exact ⟨.plain hblank, nofun⟩
  | memoryBit =>
    rcases Option.or_eq_some_iff.mp h with halternate | ⟨hnone, hplain⟩
    · obtain ⟨text, htext, hfilled⟩ := Option.bind_eq_some_iff.mp halternate
      obtain ⟨hblank, rfl⟩ := Text.nonBlank?_eq_some_iff.mp hfilled
      refine ⟨.alternate htext hblank, ?_⟩
      intro _ other hother _
      rw [Option.some.inj (htext.symm.trans hother)]
    · obtain ⟨hblank, rfl⟩ := Text.nonBlank?_eq_some_iff.mp hplain
      refine ⟨.plain hblank, ?_⟩
      intro _ text htext hfilled
      rw [Sensor.alternate?, htext, filled?, Option.bind_some, Text.nonBlank?, hfilled] at hnone
      cases hnone

theorem isSome_address?_iff :
    (v.address? sensor).isSome ↔ ∃ address, v.IsUsable sensor address := by
  constructor
  · intro h
    obtain ⟨address, haddress⟩ := Option.isSome_iff_exists.mp h
    exact ⟨address, (reads_of_address? haddress).usable⟩
  · rintro ⟨address, husable⟩
    cases husable with
    | plain hblank =>
      have hplain := Text.nonBlank?_eq_some_iff.mpr ⟨hblank, rfl⟩
      cases v <;> simp [address?, hplain]
    | alternate htext hblank =>
      have halternate := Text.nonBlank?_eq_some_iff.mpr ⟨hblank, rfl⟩
      simp [address?, Sensor.alternate?, filled?, htext, halternate]

/-! ## The first sensor of the name -/

/-- The test of the lookup. It trims the name of the sensor and takes the key as it is. -/
def bears (s : Scope) (v : Convention) (sensor : Sensor) : Bool :=
  sees s.cylinder sensor && Text.trim sensor.name = v.key s

theorem bears_iff (hkey : v.HasTrimmedKey s) : v.bears s sensor ↔ v.IsNamed s sensor := by
  rw [bears, IsNamed, sees, hkey]
  simp

theorem resolve?_of_find? (h : s.sensors.find? (v.bears s) = some sensor) :
    v.resolve? s = v.address? sensor := by
  change (s.sensors.find? (v.bears s)).bind v.address? = _
  rw [h, Option.bind_some]

/-- Where no sensor of the name without an address precedes an eligible one, the first sensor of the
name is eligible. -/
theorem exists_find?_of_isEligible {front back : List Sensor} (hkey : v.HasTrimmedKey s)
    (hsensors : s.sensors = front ++ sensor :: back) (hsensor : v.IsEligible s sensor)
    (hfront : ∀ earlier ∈ front, v.IsNamed s earlier → v.IsEligible s earlier) :
    ∃ first ∈ s.sensors, v.IsEligible s first ∧ s.sensors.find? (v.bears s) = some first := by
  cases hfind : front.find? (v.bears s) with
  | none =>
    refine ⟨sensor, by simp [hsensors], hsensor, ?_⟩
    rw [hsensors, List.find?_append, hfind, Option.none_or,
      List.find?_cons_of_pos ((bears_iff hkey).mpr hsensor.named)]
  | some first =>
    have hfirst := List.mem_of_find?_eq_some hfind
    refine ⟨first, by simp [hsensors, hfirst],
      hfront first hfirst ((bears_iff hkey).mp (List.find?_some hfind)), ?_⟩
    rw [hsensors, List.find?_append, hfind, Option.some_or]

theorem find?_of_isNamed {front back : List Sensor} (hkey : v.HasTrimmedKey s)
    (hsensors : s.sensors = front ++ sensor :: back) (hsensor : v.IsNamed s sensor)
    (hfront : ∀ earlier ∈ front, ¬v.IsNamed s earlier) :
    s.sensors.find? (v.bears s) = some sensor := by
  refine List.find?_eq_some_iff_append.mpr
    ⟨(bears_iff hkey).mpr hsensor, front, back, hsensors, fun earlier hearlier => ?_⟩
  exact (Bool.not_eq_true' _).mpr (Bool.eq_false_iff.mpr
    ((bears_iff hkey).not.mpr (hfront earlier hearlier)))

end Convention

namespace Condition

variable {s : Scope} {v : Convention} {c : Condition} {device : String} {number : UInt32}

theorem logic_of_convention? (h : c.kind.convention? = some v) : c.logic s = sensor s v := by
  rw [logic]
  cases hkind : c.kind <;> rw [hkind] at h <;> cases h <;> rfl

theorem rung_of_convention? (hkind : c.kind.convention? = some v)
    (hdevice : c.assignedDevice? = some device) (hnumber : c.interlockNumber = some number) :
    c.rung s = match v.resolve? s with
      | some address => .ok ⟨c.comment?.getD c.displayName, [⟨.ani, address⟩], device, number⟩
      | none => .error (.unresolvedSensor (v.key s)) := by
  rw [rung, hdevice, hnumber]
  change (c.logic s).map _ = _
  rw [logic_of_convention? hkind, sensor]
  cases v.resolve? s <;> rfl

/-- **The first sensor of the name decides.** An eligible sensor gives its condition a rung, the one
row of whose logic is `ANI` of an address of an eligible sensor, unless a sensor of the name that
has no address precedes it. Where the first sensor of the name has no address, the sensor is
reported as unresolved, whatever follows in the table. -/
theorem rung_of_isEligible (hkey : v.HasTrimmedKey s) (hkind : c.kind.convention? = some v)
    (hdevice : c.assignedDevice? = some device) (hnumber : c.interlockNumber = some number)
    (i : Interlock) :
    (∀ front sensor back, s.sensors = front ++ sensor :: back → v.IsEligible s sensor →
      (∀ earlier ∈ front, v.IsNamed s earlier → v.IsEligible s earlier) →
      (c.journal s i).filterMap Entry.diagnostic? = [] ∧
      ∃ first ∈ s.sensors, v.IsEligible s first ∧ ∃ address, v.Reads first address ∧
        c.rung s = .ok ⟨c.comment?.getD c.displayName, [⟨.ani, address⟩], device, number⟩) ∧
    (∀ front sensor back, s.sensors = front ++ sensor :: back → v.IsNamed s sensor →
      ¬v.IsEligible s sensor → (∀ earlier ∈ front, ¬v.IsNamed s earlier) →
      c.rung s = .error (.unresolvedSensor (v.key s)) ∧
      (c.journal s i).filterMap Entry.diagnostic? =
        [(Defect.unresolvedSensor (v.key s)).diagnostic s.cylinder i c]) := by
  have hrung := rung_of_convention? (s := s) hkind hdevice hnumber
  refine ⟨?_, ?_⟩
  · intro front sensor back hsensors hsensor hfront
    obtain ⟨first, hmem, hfirst, hfind⟩ :=
      Convention.exists_find?_of_isEligible hkey hsensors hsensor hfront
    obtain ⟨address, haddress⟩ :=
      Option.isSome_iff_exists.mp (Convention.isSome_address?_iff.mpr hfirst.usable)
    rw [Convention.resolve?_of_find? hfind, haddress] at hrung
    rw [filterMap_journal, failure?, hrung]
    exact ⟨rfl, first, hmem, hfirst, address, Convention.reads_of_address? haddress, rfl⟩
  · intro front sensor back hsensors hsensor hineligible hfront
    have haddress : v.address? sensor = none := by
      rw [← Option.not_isSome_iff_eq_none, Convention.isSome_address?_iff]
      exact fun husable => hineligible ⟨hsensor, husable⟩
    rw [Convention.resolve?_of_find? (Convention.find?_of_isNamed hkey hsensors hsensor hfront),
      haddress] at hrung
    rw [filterMap_journal, failure?, hrung]
    exact ⟨rfl, rfl⟩

end Condition

/-! ## A guarded press

Its condition reads the sensor `001ALM`. -/

def alarmGuard : Condition :=
  { pressOverride with kind := .alarmSensor, ios := [] }

/-- The press under a controller that has the sensors. -/
def guardScope (sensors : List Sensor) : Scope where
  options := .default
  sensors := sensors
  cylinder := { press with plc := some 1 }

/-- The second sensor is out of sight, and the third is the one that is read. -/
def doubledSensors : List Sensor :=
  [⟨"X4", none, "002ALM", some 1⟩, ⟨"X6", none, "001ALM", some 2⟩,
    ⟨" X5", some "M5", "001ALM ", some 1⟩, ⟨"X7", none, "001ALM", some 1⟩]

/-- The first sensor of the name has no address. -/
def shadowedSensors : List Sensor :=
  [⟨" ", none, "001ALM", some 1⟩, ⟨"X5", none, "001ALM", some 1⟩]

/-- The options ask for a name with a blank in front, which the sensor has as well. -/
def blankedScope : Scope :=
  { guardScope [⟨"X5", none, " 001ALM", some 1⟩] with
    options := { Options.default with alarmSensor := ⟨" ", "ALM"⟩ } }

theorem isEligible_guardScope {sensors : List Sensor} {address name : String}
    {alternate : Option String} (haddress : Text.isBlank address = false)
    (hname : Text.trim name = Text.trim "001ALM") :
    Convention.alarm.IsEligible (guardScope sensors) ⟨address, alternate, name, some 1⟩ :=
  ⟨⟨.inr rfl, hname⟩, _, .plain haddress⟩

theorem hasTrimmedKey_guardScope (sensors : List Sensor) :
    Convention.alarm.HasTrimmedKey (guardScope sensors) := by
  change Text.trim ("" ++ "001" ++ "ALM") = "" ++ "001" ++ "ALM"
  decide +kernel

/-- An eligible sensor is not enough: the one before it has no address, or the key has a blank in
front that no name has once it is trimmed. -/
theorem alarmGuard_unresolved :
    alarmGuard.kind.convention? = some .alarm ∧ alarmGuard.assignedDevice?.isSome ∧
    alarmGuard.interlockNumber.isSome ∧
    (∃ sensor ∈ shadowedSensors, Convention.alarm.IsEligible (guardScope shadowedSensors) sensor) ∧
    alarmGuard.rung (guardScope shadowedSensors) = .error (.unresolvedSensor "001ALM") ∧
    (∃ sensor ∈ blankedScope.sensors, Convention.alarm.IsEligible blankedScope sensor) ∧
    alarmGuard.rung blankedScope = .error (.unresolvedSensor " 001ALM") := by
  have hdevice : alarmGuard.assignedDevice? = some "M100" := by decide
  have hrung (s : Scope) := Condition.rung_of_convention? (s := s) (c := alarmGuard) rfl hdevice rfl
  have hshadowed : Convention.alarm.resolve? (guardScope shadowedSensors) = none := by
    decide +kernel
  have hblanked : Convention.alarm.resolve? blankedScope = none := by decide +kernel
  refine ⟨rfl, by decide, rfl, ⟨_, .tail _ (.head _), isEligible_guardScope (by decide) rfl⟩, ?_,
    ⟨_, .head _, ⟨.inr rfl, by decide +kernel⟩, _, .plain (by decide)⟩, ?_⟩
  · rw [hrung, hshadowed]
    rfl
  · rw [hrung, hblanked]
    rfl

theorem rung_alarmGuard :
    Convention.alarm.HasTrimmedKey (guardScope doubledSensors) ∧
    alarmGuard.kind.convention? = some .alarm ∧ alarmGuard.assignedDevice? = some "M100" ∧
    alarmGuard.interlockNumber = some 1 ∧
    (∃ first ∈ doubledSensors, Convention.alarm.IsEligible (guardScope doubledSensors) first ∧
      ∃ address, Convention.alarm.Reads first address ∧
        alarmGuard.rung (guardScope doubledSensors) =
          .ok ⟨"condition 1", [⟨.ani, address⟩], "M100", 1⟩) ∧
    alarmGuard.rung (guardScope shadowedSensors) = .error (.unresolvedSensor "001ALM") := by
  have hkey := hasTrimmedKey_guardScope
  have hkind : alarmGuard.kind.convention? = some .alarm := rfl
  have hdevice : alarmGuard.assignedDevice? = some "M100" := by decide
  have hnumber : alarmGuard.interlockNumber = some 1 := rfl
  obtain ⟨hrung, -⟩ := Condition.rung_of_isEligible (hkey doubledSensors) hkind hdevice hnumber
    pressLock
  obtain ⟨-, hshadowed⟩ := Condition.rung_of_isEligible (hkey shadowedSensors) hkind hdevice
    hnumber pressLock
  have hlast : Convention.alarm.IsEligible (guardScope doubledSensors)
      ⟨"X7", none, "001ALM", some 1⟩ :=
    isEligible_guardScope (by decide) rfl
  have hthird : Convention.alarm.IsEligible (guardScope doubledSensors)
      ⟨" X5", some "M5", "001ALM ", some 1⟩ :=
    isEligible_guardScope (by decide) (by decide +kernel)
  obtain ⟨-, hlowered⟩ := hrung (doubledSensors.take 3) _ [] rfl hlast (by
    refine List.forall_mem_cons.mpr ⟨fun h => ?_, List.forall_mem_cons.mpr ⟨fun h => ?_,
      List.forall_mem_singleton.mpr fun _ => hthird⟩⟩
    · exact absurd h.2 (by decide +kernel)
    · exact absurd h.1 (by decide))
  refine ⟨hkey _, hkind, hdevice, hnumber, hlowered, ?_⟩
  refine (hshadowed [] _ _ rfl ⟨.inr rfl, rfl⟩ ?_ (List.forall_mem_nil _)).1
  rintro ⟨-, address, husable⟩
  cases husable with
  | plain hblank => exact absurd hblank (by decide)

end InterlockLadder
