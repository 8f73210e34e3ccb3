import SandboxTasks.Proofs.Json.Record
import SandboxTasks.Proofs.Time.Instant
import SandboxTasks.Task.Wire

namespace SandboxTasks

open Json

theorem Json.Same.eq_string {v : Json} {s : String} (h : Same v (.string s)) : v = .string s :=
  h.eq_of_leaf fun _ he => by cases he

theorem decodeString_same {v : Json} {s : String} (h : Same v (.string s)) : decodeString v = .ok s := by
  rw [h.eq_string]
  rfl

theorem decodeName_same {α : Type} {ofName? : String → Option α} {a : α} {s : String} (hname : ofName? s = some a)
    {v : Json} (h : Same v (.string s)) : decodeName ofName? v = .ok a := by
  rw [h.eq_string, decodeName, hname]

theorem decodeInstant_same {t : Instant} (ht : t.Legible) {v : Json} (h : Same v (instant t)) :
    decodeInstant v = .ok t := by
  rw [h.eq_string, decodeInstant, Instant.ofText_toText ht]

theorem decodeNat_same {limit n : Nat} (hn : n < limit) {v : Json} (h : Same v (.nat n)) :
    decodeNat limit v = .ok n := by
  rw [h.eq_of_leaf fun _ he => by cases he]
  have hrange : (0 : Int) ≤ n ∧ (n : Int) < limit := ⟨Int.natCast_nonneg n, Int.ofNat_lt.mpr hn⟩
  simp only [Json.nat, decodeNat, hrange, and_self, if_true, Int.toNat_natCast]

theorem decodeElements_map {α : Type} {decode : Json → Except Fault α} {write : α → Json} {as : List α}
    (h : ∀ a ∈ as, decode (write a) = .ok a) : decodeElements decode (as.map write) = .ok as := by
  induction as with
  | nil => rfl
  | cons a as ih =>
      have hrest := ih fun b hb => h b (List.mem_cons_of_mem a hb)
      simp only [List.map_cons, decodeElements, h a List.mem_cons_self, hrest]
      rfl

namespace Field

theorem carries_text {name s : String} : (required name decodeString).Carries s (name, some (.string s)) :=
  carries_required fun _ => decodeString_same

theorem carries_texts {name : String} {o : Option String} :
    (Json.optional name decodeString).Carries o (name, o.map .string) :=
  carries_optional fun _ _ => ⟨fun h => by (cases h), fun _ => decodeString_same⟩

theorem carries_instants {name : String} {o : Option Instant} (ho : ∀ t ∈ o, t.Legible) :
    (Json.optional name decodeInstant).Carries o (name, o.map instant) :=
  carries_optional fun t ht => ⟨fun h => by (cases h), fun _ => decodeInstant_same (ho t ht)⟩

end Field

theorem SandboxRef.decode_same {b : SandboxRef} {j : Json} (h : Same j b.encode) : SandboxRef.decode j = .ok b := by
  have hclaim : claimField.Carries b.claim ("claimName", some (.string b.claim)) := Field.carries_text
  have haddress : addressField.Carries b.address ("address", b.address.map .string) := Field.carries_texts
  obtain ⟨s, hs, hbring⟩ := slots_written (by simp) (.cons hclaim.fits (.cons haddress.fits .nil)) h
  have h₁ := hbring.read (by simp) hclaim
  have h₂ := hbring.read (by simp) haddress
  rw [SandboxRef.decode, hs]
  simp only [bind, Except.bind, h₁, h₂]
  rfl

theorem Condition.decode_same {c : Condition} (hc : c.since.Legible) {j : Json} (h : Same j c.encode) :
    Condition.decode j = .ok c := by
  have hkind : kindField.Carries c.kind ("type", some (.string c.kind.name)) :=
    Field.carries_required fun _ => decodeName_same c.kind.ofName?_name
  have hholds : holdsField.Carries c.holds ("status", some (.bool c.holds)) :=
    Field.carries_required fun v hv => by
      rw [hv.eq_of_leaf fun _ he => by cases he]
      rfl
  have hreason : reasonField.Carries c.reason ("reason", some (.string c.reason)) := Field.carries_text
  have hmessage : messageField.Carries c.message ("message", c.message.map .string) := Field.carries_texts
  have hsince : sinceField.Carries c.since ("lastTransitionTime", some (instant c.since)) :=
    Field.carries_required fun _ => decodeInstant_same hc
  obtain ⟨s, hs, hbring⟩ := slots_written (by simp)
    (.cons hkind.fits (.cons hholds.fits (.cons hreason.fits (.cons hmessage.fits (.cons hsince.fits .nil))))) h
  have h₁ := hbring.read (by simp) hkind
  have h₂ := hbring.read (by simp) hholds
  have h₃ := hbring.read (by simp) hreason
  have h₄ := hbring.read (by simp) hmessage
  have h₅ := hbring.read (by simp) hsince
  rw [Condition.decode, hs]
  simp only [bind, Except.bind, h₁, h₂, h₃, h₄, h₅]
  rfl

namespace Status

/-- The numbers have their sizes, and every time can be told from its text. -/
structure Legible (s : Status) : Prop where
  attempts : s.attempts < 4294967296
  conditions : ∀ c ∈ s.conditions, c.since.Legible
  provisioningSince : ∀ t ∈ s.provisioningSince, t.Legible
  readyAt : ∀ t ∈ s.readyAt, t.Legible
  assignedAt : ∀ t ∈ s.assignedAt, t.Legible
  completedAt : ∀ t ∈ s.completedAt, t.Legible

theorem decode_same {st : Status} (hst : st.Legible) {j : Json} (h : Same j st.encode) : decode j = .ok st := by
  have hphase : phaseField.Carries st.phase ("phase", some (.string st.phase.name)) :=
    Field.carries_withDefault fun _ => decodeName_same st.phase.ofName?_name
  have hreason : reasonField.Carries st.reason ("reason", st.reason.map fun r => .string r.name) :=
    Field.carries_optional fun r _ => ⟨fun h => by (cases h), fun _ => decodeName_same r.ofName?_name⟩
  have hmessage : messageField.Carries st.message ("message", st.message.map .string) := Field.carries_texts
  have hconditions : conditionsField.Carries st.conditions
      ("conditions", some (.array (st.conditions.map Condition.encode))) :=
    Field.carries_withDefault fun v hv => by
      rw [hv.eq_of_leaf fun _ he => by cases he]
      exact decodeElements_map fun c hc => Condition.decode_same (hst.conditions c hc) (.refl _)
  have hsandbox : sandboxField.Carries st.sandbox ("sandbox", st.sandbox.map SandboxRef.encode) :=
    Field.carries_optional fun b _ => ⟨fun h => by (cases h), fun _ => SandboxRef.decode_same⟩
  have hattempts : attemptsField.Carries st.attempts ("assignmentAttempts", some (.nat st.attempts)) :=
    Field.carries_withDefault fun _ => decodeNat_same hst.attempts
  have herror : assignmentErrorField.Carries st.assignmentError
      ("lastAssignmentError", st.assignmentError.map .string) := Field.carries_texts
  have hprogress : progressField.Carries st.progress ("lastProgress", st.progress.map .string) := Field.carries_texts
  have hpull : pullRequestField.Carries st.pullRequest ("pullRequestUrl", st.pullRequest.map .string) :=
    Field.carries_texts
  have hsince : provisioningSinceField.Carries st.provisioningSince
      ("provisioningStartedAt", st.provisioningSince.map instant) := Field.carries_instants hst.provisioningSince
  have hready : readyAtField.Carries st.readyAt ("readyAt", st.readyAt.map instant) :=
    Field.carries_instants hst.readyAt
  have hassigned : assignedAtField.Carries st.assignedAt ("assignedAt", st.assignedAt.map instant) :=
    Field.carries_instants hst.assignedAt
  have hcompleted : completedAtField.Carries st.completedAt ("completedAt", st.completedAt.map instant) :=
    Field.carries_instants hst.completedAt
  obtain ⟨s, hs, hbring⟩ := slots_written (by simp)
    (.cons hphase.fits (.cons hreason.fits (.cons hmessage.fits (.cons hconditions.fits (.cons hsandbox.fits
      (.cons hattempts.fits (.cons herror.fits (.cons hprogress.fits (.cons hpull.fits (.cons hsince.fits
        (.cons hready.fits (.cons hassigned.fits (.cons hcompleted.fits .nil))))))))))))) h
  have h₁ := hbring.read (by simp) hphase
  have h₂ := hbring.read (by simp) hreason
  have h₃ := hbring.read (by simp) hmessage
  have h₄ := hbring.read (by simp) hconditions
  have h₅ := hbring.read (by simp) hsandbox
  have h₆ := hbring.read (by simp) hattempts
  have h₇ := hbring.read (by simp) herror
  have h₈ := hbring.read (by simp) hprogress
  have h₉ := hbring.read (by simp) hpull
  have h₁₀ := hbring.read (by simp) hsince
  have h₁₁ := hbring.read (by simp) hready
  have h₁₂ := hbring.read (by simp) hassigned
  have h₁₃ := hbring.read (by simp) hcompleted
  have hforms : j.slots forms = .ok s := hs
  rw [decode, hforms]
  simp only [bind, Except.bind, h₁, h₂, h₃, h₄, h₅, h₆, h₇, h₈, h₉, h₁₀, h₁₁, h₁₂, h₁₃]
  rfl

end Status

theorem SandboxRef.solid_encode (b : SandboxRef) : Solid b.encode := by
  refine solid_ofFields (by simp) ?_
  simp only [List.forall_mem_cons]
  exact ⟨solid_some (solid_leaf (by simp) (by simp)), solid_map fun _ _ => solid_leaf (by simp) (by simp), by simp⟩

theorem Status.solid_encode (st : Status) : Solid st.encode := by
  have htexts : ∀ {α : Type} (write : α → String) (o : Option α), ∀ v ∈ o.map fun a => .string (write a), Solid v :=
    fun write o => solid_map fun _ _ => solid_leaf (by simp) (by simp)
  refine solid_ofFields (by simp) ?_
  simp only [List.forall_mem_cons]
  exact ⟨solid_some (solid_leaf (by simp) (by simp)), htexts EndReason.name _, htexts id _,
    solid_some (solid_leaf (by simp) (by simp)), solid_map fun b _ => b.solid_encode,
    solid_some (solid_leaf (by simp [Json.nat]) (by simp [Json.nat])), htexts id _, htexts id _, htexts id _,
    htexts Instant.toText _, htexts Instant.toText _, htexts Instant.toText _, htexts Instant.toText _, by simp⟩

theorem Status.find?_encode (st : Status) {key : String} {v : Json}
    (h : (key, v) ∈ [("phase", Json.string st.phase.name), ("conditions", .array (st.conditions.map Condition.encode)),
      ("assignmentAttempts", .nat st.attempts)]) : find? st.encode.members key = some v := by
  simp only [List.mem_cons, Prod.mk.injEq, List.not_mem_nil, or_false] at h
  rcases h with ⟨rfl, rfl⟩ | ⟨rfl, rfl⟩ | ⟨rfl, rfl⟩
  · exact find?_written (e := ("phase", some _)) (by simp) (by simp)
  · exact find?_written (e := ("conditions", some _)) (by simp) (by simp)
  · exact find?_written (e := ("assignmentAttempts", some _)) (by simp) (by simp)

/-- The status that a server holds: one that was written, or none before the first write. -/
def Status.IsStored (st : Status) : Option Json → Prop
  | some j => Same j st.encode
  | none => st = .initial

theorem Status.merge_stored {st : Status} {stored : Option Json} (h : st.IsStored stored) (next : Status) :
    Same (merge (stored.getD .null) (mergePatch st.encode next.encode)) next.encode := by
  obtain ⟨-, hdistinct, hfull⟩ := next.solid_encode
  cases stored with
  | some j => exact merge_mergePatch _ hdistinct hfull j st.encode h st.solid_encode.distinct
  | none =>
      cases h
      have hinitial : initial.encode = .object [("phase", .string initial.phase.name), ("conditions", .array []),
          ("assignmentAttempts", .nat 0)] := rfl
      rw [hinitial]
      refine merge_mergePatch_empty rfl (by simp [names]) hdistinct hfull fun key o ho => ?_
      have hkey := mem_of_find ho
      simp only [List.mem_cons, Prod.mk.injEq, List.not_mem_nil, or_false] at hkey
      rcases hkey with ⟨rfl, rfl⟩ | ⟨rfl, rfl⟩ | ⟨rfl, rfl⟩
      · exact ⟨Option.isSome_of_eq_some (next.find?_encode (by simp; rfl)), by simp⟩
      · exact ⟨Option.isSome_of_eq_some (next.find?_encode (by simp; rfl)), by simp⟩
      · exact ⟨Option.isSome_of_eq_some (next.find?_encode (by simp; rfl)), by simp [Json.nat]⟩

end SandboxTasks
