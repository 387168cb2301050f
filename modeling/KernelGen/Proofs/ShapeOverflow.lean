import KernelGen.Proofs.Generation
import KernelGen.Proofs.ManifestDocuments

/-!
# Shapes that leave the machine word

The two sides of a shape are words, and their sum is taken as a word too. Binding an instantiation
of a paired skeleton asks for that sum, so it is broken off if the sum is no word; validation,
checking and generating bind every instantiation and are broken off with it. No other arithmetic can
break them off, and a sum that is a word is compared as a number.

* `MetadataGraph.ShapeOverflows`: the sum is asked for, and is no word.
* `MetadataGraph.bind_eq_abort_iff`, `MetadataGraph.validate_eq_error_iff`,
  `Generation.check_eq_error_iff`, `Generation.generateAll_eq_abort_iff`: what is broken off.
* `MetadataGraph.exists_bind_iff`, `MetadataGraph.bind_of_mismatch`: what binding gives otherwise.
-/

namespace KernelGen

/-- A list of operations is broken off exactly if one of them is. -/
theorem exists_mapM_eq_error_iff {α β ε : Type} {f : α → Except ε β} {l : List α} :
    (∃ e, l.mapM f = .error e) ↔ ∃ a ∈ l, ∃ e, f a = .error e := by
  constructor
  · rintro ⟨e, he⟩
    obtain ⟨a, ha, hfail⟩ := exists_of_mapM_eq_error he
    exact ⟨a, ha, e, hfail⟩
  · rintro ⟨a, ha, e, hfail⟩
    cases hl : l.mapM f with
    | error e' => exact ⟨e', rfl⟩
    | ok bs =>
      -- Had all of them succeeded, so had this one.
      obtain ⟨b, -, hb⟩ := exists_mem_of_mapM_eq_ok hl ha
      rw [hfail] at hb
      cases hb

namespace MetadataGraph

variable {g : MetadataGraph} {i : Instantiation} {f : UserFunction} {allowed : List String}
  {r : Abort}

/-- The sum of the sides of an instantiation is asked for, since its skeleton is paired and its
function is there, but the sum is no word. -/
def ShapeOverflows (g : MetadataGraph) (i : Instantiation) : Prop :=
  i.skeleton.isPaired = true ∧ (g.function? i.function).isSome = true ∧
    Word.bound ≤ i.varity.toNat + i.harity.toNat

instance (g : MetadataGraph) (i : Instantiation) : Decidable (g.ShapeOverflows i) :=
  inferInstanceAs (Decidable (_ ∧ _ ∧ _))

/-! ## Binding -/

/-- Binding is broken off exactly if the sum of the sides is asked for and is no word. -/
theorem bind_eq_abort_iff :
    g.bind i = .error (.abort r) ↔ r = .addOverflow ∧ g.ShapeOverflows i := by
  unfold bind ShapeOverflows
  cases hfind : g.function? i.function with
  | none => simp
  | some f =>
    by_cases hpaired : i.skeleton.isPaired = true
    · have harity : i.shape.arity = .error r ↔
          r = .addOverflow ∧ Word.bound ≤ i.varity.toNat + i.harity.toNat :=
        Word.add_eq_error_iff
      cases hsum : i.shape.arity with
      | error r' =>
        rw [hsum, Except.error.injEq] at harity
        simp [hpaired, ← harity]
      | ok arity =>
        -- With a sum at hand, binding succeeds or reports a mismatch.
        rw [hsum] at harity
        have hword : ¬ (r = .addOverflow ∧ Word.bound ≤ i.varity.toNat + i.harity.toNat) := by
          simpa using harity
        by_cases hlength : f.elementwise.length = arity.toNat
        · simpa [hpaired, hlength] using hword
        · simpa [hpaired, hlength] using hword
    · simp [hpaired]

/-- Binding an instantiation of a paired skeleton whose sum of sides is a word succeeds exactly if
the function is there and has as many elementwise parameters as the two sides together. -/
theorem exists_bind_iff (hpaired : i.skeleton.isPaired = true)
    (hword : i.varity.toNat + i.harity.toNat < Word.bound) :
    (∃ f, g.bind i = .ok f) ↔ ∃ f, g.function? i.function = some f ∧
      f.elementwise.length = i.varity.toNat + i.harity.toNat := by
  simp only [bind_eq_ok_iff hpaired, hword, true_and]
  constructor
  · rintro ⟨-, f, hfind, hlength, -⟩
    exact ⟨f, hfind, hlength⟩
  · rintro ⟨f, hfind, hlength⟩
    exact ⟨_, f, hfind, hlength, rfl⟩

/-- A function with another number of elementwise parameters than the two sides together is a
mismatch, which reports both numbers. -/
theorem bind_of_mismatch (hpaired : i.skeleton.isPaired = true)
    (hword : i.varity.toNat + i.harity.toNat < Word.bound)
    (hfind : g.function? i.function = some f)
    (hlength : f.elementwise.length ≠ i.varity.toNat + i.harity.toNat) :
    ∃ expected, expected.toNat = i.varity.toNat + i.harity.toNat ∧
      g.bind i = .error (.error (.shapeMismatch i.skeleton i.function i.varity i.harity expected
        (UInt64.ofNat f.elementwise.length))) := by
  have hname : f.uniqueName = i.function := by simpa using List.find?_some hfind
  have hsum : (i.varity + i.harity).toNat = i.varity.toNat + i.harity.toNat := by
    rw [UInt64.toNat_add, Nat.mod_eq_of_lt hword]
  have harity : i.shape.arity = .ok (i.varity + i.harity) := Word.add_eq_ok_iff.2 ⟨hword, hsum⟩
  refine ⟨i.varity + i.harity, hsum, ?_⟩
  simp only [bind, hfind, hpaired, if_true, harity, hsum, if_neg hlength, hname]

/-! ## Validation -/

theorem instantiationErrors_eq_error_iff :
    g.instantiationErrors i = .error r ↔ g.bind i = .error (.abort r) := by
  unfold instantiationErrors
  cases g.bind i with
  | ok f => simp
  | error failure => cases failure <;> simp

/-- Validation is broken off exactly if an instantiation cannot be bound for its shape. -/
theorem validate_eq_error_iff :
    g.validate allowed = .error r ↔
      r = .addOverflow ∧ ∃ i ∈ g.instantiations, g.ShapeOverflows i := by
  have hmapM : g.validate allowed = .error r ↔
      g.instantiations.mapM g.instantiationErrors = .error r := by
    unfold validate
    cases g.instantiations.mapM g.instantiationErrors <;> simp
  rw [hmapM]
  constructor
  · intro h
    obtain ⟨i, hi, hfail⟩ := exists_of_mapM_eq_error h
    obtain ⟨rfl, hover⟩ := bind_eq_abort_iff.1 (instantiationErrors_eq_error_iff.1 hfail)
    exact ⟨rfl, i, hi, hover⟩
  · rintro ⟨rfl, i, hi, hover⟩
    have hfail : g.instantiationErrors i = .error .addOverflow :=
      instantiationErrors_eq_error_iff.2 (bind_eq_abort_iff.2 ⟨rfl, hover⟩)
    obtain ⟨r, hr⟩ := exists_mapM_eq_error_iff.2 ⟨i, hi, _, hfail⟩
    -- There is only one reason, whichever instantiation is met first.
    obtain ⟨j, -, hj⟩ := exists_of_mapM_eq_error hr
    obtain ⟨rfl, -⟩ := bind_eq_abort_iff.1 (instantiationErrors_eq_error_iff.1 hj)
    exact hr

end MetadataGraph

/-! ## Checking and generating -/

namespace Generation

open MetadataGraph

variable {g : MetadataGraph} {o : Options} {r : Abort}

theorem check_eq_error_iff :
    check g o = .error r ↔ r = .addOverflow ∧ ∃ i ∈ g.instantiations, g.ShapeOverflows i := by
  have hvalidate : g.validate o.allowedCalls = .error r ↔ _ := validate_eq_error_iff
  rw [← hvalidate, check]
  cases g.validate o.allowedCalls <;> simp [Except.map]

/-- Lowering a job can only be broken off while its instantiation is bound. -/
theorem lowerJob_eq_abort_iff {b : Backend} {j : Job} :
    lowerJob g o b j = .error (.abort r) ↔ g.bind j.instantiation = .error (.abort r) := by
  unfold lowerJob
  cases g.bind j.instantiation with
  | error failure => cases failure <;> simp
  | ok f =>
    dsimp only
    cases Artifact.lower g (j.request o f) <;> simp

/-- Generating is broken off exactly if validation is: what was validated can be bound. -/
theorem generateAll_eq_abort_iff :
    generateAll g o = .error (.abort r) ↔
      r = .addOverflow ∧ ∃ i ∈ g.instantiations, g.ShapeOverflows i := by
  have hiff : g.validate o.allowedCalls = .error r ↔ _ := validate_eq_error_iff
  rw [← hiff]
  unfold generateAll
  cases hvalidate : g.validate o.allowedCalls with
  | error r' => simp
  | ok errors =>
    refine iff_of_false ?_ nofun
    cases errors with
    | cons e errors => simp
    | nil =>
      have hg := validate_eq_nil_iff.1 hvalidate
      cases kernelBackends g o with
      | error e => simp
      | ok bs =>
        rw [plan_eq]
        intro habort
        -- The job that is broken off has an instantiation of the metadata, which was bound before.
        obtain ⟨⟨b, j⟩, hjob, hfail⟩ := exists_of_mapM_eq_error habort
        obtain ⟨b', -, hj⟩ := List.mem_flatMap.1 hjob
        obtain ⟨j', hj', hpair⟩ := List.mem_map.1 hj
        obtain ⟨rfl, rfl⟩ := Prod.mk.inj hpair
        obtain ⟨i, hi, rfl⟩ := List.mem_map.1 hj'
        obtain ⟨f, -, hbind, -⟩ := hg.instantiations i (List.mem_eraseDups.1 hi)
        have hbound := lowerJob_eq_abort_iff.1 hfail
        exact absurd (hbind.symm.trans hbound) nofun

/-- What breaks off binding, validation, checking and generating is a sum of sides that is no word,
and nothing else. Where the sum is a word it is taken as a number: binding succeeds exactly if the
function is there and has that many elementwise parameters, and is a mismatch if the function has
another number of them. -/
theorem abort_iff_shapeOverflows (g : MetadataGraph) (o : Options) :
    (∀ i r, g.bind i = .error (.abort r) ↔ r = .addOverflow ∧ g.ShapeOverflows i) ∧
    (∀ allowed r, g.validate allowed = .error r ↔
      r = .addOverflow ∧ ∃ i ∈ g.instantiations, g.ShapeOverflows i) ∧
    (∀ r, check g o = .error r ↔
      r = .addOverflow ∧ ∃ i ∈ g.instantiations, g.ShapeOverflows i) ∧
    (∀ r, generateAll g o = .error (.abort r) ↔
      r = .addOverflow ∧ ∃ i ∈ g.instantiations, g.ShapeOverflows i) ∧
    ∀ i, i.skeleton.isPaired = true → i.varity.toNat + i.harity.toNat < 2 ^ 64 →
      ((∃ f, g.bind i = .ok f) ↔ ∃ f, g.function? i.function = some f ∧
        f.elementwise.length = i.varity.toNat + i.harity.toNat) ∧
      ∀ f, g.function? i.function = some f →
        f.elementwise.length ≠ i.varity.toNat + i.harity.toNat →
        ∃ expected, expected.toNat = i.varity.toNat + i.harity.toNat ∧
          g.bind i = .error (.error (.shapeMismatch i.skeleton i.function i.varity i.harity expected
            (UInt64.ofNat f.elementwise.length))) := by
  refine ⟨fun i r => bind_eq_abort_iff, fun allowed r => validate_eq_error_iff,
    fun r => check_eq_error_iff, fun r => generateAll_eq_abort_iff, fun i hpaired hword => ?_⟩
  exact ⟨exists_bind_iff hpaired hword, fun f hfind hlength =>
    bind_of_mismatch hpaired hword hfind hlength⟩

/-- A function of two parameters is a mismatch for a side as large as a word allows, and with one
more on the other side binding is broken off. -/
theorem abort_iff_shapeOverflows_sample :
    let g := sampleMetadata []
    (∃ expected, expected.toNat = 2 ^ 64 - 1 ∧
      g.bind ⟨.mapPairs, "scale_1", 18446744073709551615, 0⟩ =
        .error (.error (.shapeMismatch .mapPairs "scale_1" 18446744073709551615 0 expected 2))) ∧
    g.bind ⟨.mapPairs, "scale_1", 18446744073709551615, 1⟩ = .error (.abort .addOverflow) := by
  intro g
  obtain ⟨hbind, -, -, -, hpaired⟩ := abort_iff_shapeOverflows g sampleOptions
  refine ⟨?_, (hbind _ _).2 ⟨rfl, by decide⟩⟩
  obtain ⟨-, hmismatch⟩ := hpaired ⟨.mapPairs, "scale_1", 18446744073709551615, 0⟩ rfl (by decide)
  exact hmismatch _ rfl (by decide)

/-- A function of two parameters, as a cross product whose sides are the largest word and one. -/
def overflowingManifest : Manifest where
  functions := (sampleMetadata []).functions
  instantiations := [⟨.mapPairs, "scale_1", 18446744073709551615, 1⟩]

/-- The text is a manifest, and checking it is broken off instead of reporting a mismatch. -/
theorem overflowing_manifest_aborts :
    String.ofList overflowingManifest.json.shortest.text =
      "\x7b\"functions\":[\x7b\"name\":\"scale\",\"unique_name\":\"scale_1\"," ++
      "\"return_type\":\"float\",\"elementwise\":[\x7b\"name\":\"a\",\"type\":\"float\"\x7d," ++
      "\x7b\"name\":\"b\",\"type\":\"float\"\x7d],\"body\":\"return a * b;\"\x7d]," ++
      "\"instantiations\":[\x7b\"skeleton\":\"MapPairs\",\"function\":\"scale_1\"," ++
      "\"varity\":18446744073709551615\x7d]\x7d" ∧
    ∃ g, parseManifest (String.ofList overflowingManifest.json.shortest.text) = .ok g ∧
      (∃ i ∈ g.instantiations, g.bind i = .error (.abort .addOverflow)) ∧
      g.validate [] = .error .addOverflow ∧
      check g sampleOptions = .error .addOverflow ∧
      generateAll g sampleOptions = .error (.abort .addOverflow) := by
  let g := overflowingManifest.toGraph
  have hread : Manifest.read overflowingManifest.json.shortest.text = .ok overflowingManifest :=
    Manifest.read_of_abridged (by decide) (Json.abridged_shortest _)
  have hover : ∃ i ∈ g.instantiations, g.ShapeOverflows i :=
    ⟨⟨.mapPairs, "scale_1", 18446744073709551615, 1⟩, by decide, by decide⟩
  refine ⟨by decide +kernel, g, Manifest.parseManifest_of_read hread, ?_,
    validate_eq_error_iff.2 ⟨rfl, hover⟩, check_eq_error_iff.2 ⟨rfl, hover⟩,
    generateAll_eq_abort_iff.2 ⟨rfl, hover⟩⟩
  obtain ⟨i, hi, hshape⟩ := hover
  exact ⟨i, hi, bind_eq_abort_iff.2 ⟨rfl, hshape⟩⟩

end Generation

end KernelGen
