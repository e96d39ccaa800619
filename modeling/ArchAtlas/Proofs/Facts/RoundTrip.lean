import ArchAtlas.Proofs.Codec.Recovery
import ArchAtlas.Proofs.Facts.Survey

namespace ArchAtlas

open Codec (record_carries variants_carries)

@[simp]
theorem Span.factCodec_carries (s : Span) : (Span.factCodec Json).Carries s := by
  apply record_carries (by decide) rfl
  simp

@[simp]
theorem Language.codec_carries (l : Language) : (Language.codec Json).Carries l := by
  apply variants_carries (by decide)
  cases l <;> decide

namespace Facts

@[simp]
theorem Import.codec_carries (i : Import) : (Import.codec Json).Carries i := by
  apply record_carries (by decide) rfl
  simp

@[simp]
theorem FieldDecl.codec_carries (f : FieldDecl) : (FieldDecl.codec Json).Carries f := by
  apply record_carries (by decide) rfl
  simp

@[simp]
theorem Parameter.codec_carries (p : Parameter) : (Parameter.codec Json).Carries p := by
  apply record_carries (by decide) rfl
  simp

@[simp]
theorem Call.codec_carries (c : Call) : (Call.codec Json).Carries c := by
  apply record_carries (by decide) rfl
  simp

@[simp]
theorem Spawn.codec_carries (s : Spawn) : (Spawn.codec Json).Carries s := by
  apply record_carries (by decide) rfl
  simp

@[simp]
theorem ChannelOperation.codec_carries (o : ChannelOperation) :
    (ChannelOperation.codec Json).Carries o := by
  apply variants_carries (by decide)
  cases o <;> decide

@[simp]
theorem ChannelUse.codec_carries (u : ChannelUse) : (ChannelUse.codec Json).Carries u := by
  apply record_carries (by decide) rfl
  simp

@[simp]
theorem Body.codec_carries (b : Body) : (Body.codec Json).Carries b := by
  apply record_carries (by decide) rfl
  simp

@[simp]
theorem FuncDecl.codec_carries (f : FuncDecl) : (FuncDecl.codec Json).Carries f := by
  apply record_carries (by decide) rfl
  simp

@[simp]
theorem TypeDecl.codec_carries (t : TypeDecl) : (TypeDecl.codec Json).Carries t := by
  apply record_carries (by decide) rfl
  simp

@[simp]
theorem Package.codec_carries (p : Package) : (Package.codec Json).Carries p := by
  apply record_carries (by decide) rfl
  simp

@[simp]
theorem Requirement.codec_carries (r : Requirement) : (Requirement.codec Json).Carries r := by
  apply record_carries (by decide) rfl
  simp

theorem Project.codec_carries (p : Project) : (Project.codec Json).Carries p := by
  apply record_carries (by decide) rfl
  simp

/-! ## Surveys -/

theorem skipped_of_decode {members : List (String × Json)} {p : Project}
    (read : (Project.codec Json).decode (.obj members) = .ok p) :
    (surveyOf members).skipped = [] := by
  rw [← List.map_eq_nil_iff, List.eq_nil_iff_forall_not_mem]
  intro path mem
  obtain ⟨l, misfit, -⟩ := (mem_paths_surveyOf members path).mp mem
  exact not_misfit_of_decode read l misfit

/-- An object that is read strictly is surveyed as the same project, and nothing is left out. -/
theorem survey_of_decode {members : List (String × Json)} {p : Project}
    (distinct : (members.map Prod.fst).Nodup)
    (read : (Project.codec Json).decode (.obj members) = .ok p) :
    Project.survey (.obj members) = .ok ⟨p, []⟩ := by
  have none : ∀ l, (fun _ : Locator => false) l = true ↔ Misfit members l := by
    intro l
    simp [not_misfit_of_decode read l]
  have pruned : (Project.codec Json).decode (prune (fun _ => false) (.obj members)) =
      .ok (surveyOf members).project := decode_pruneMembers none distinct
  rw [prune_none, read] at pruned
  calc Project.survey (.obj members)
      = .ok ⟨(surveyOf members).project, (surveyOf members).skipped⟩ := survey_obj members
    _ = .ok ⟨p, []⟩ := by rw [skipped_of_decode read, ← Except.ok.inj pruned]

/-- Every project, written and read again, is the same project, whether it is read strictly or
surveyed; the survey leaves nothing out. The members of objects may arrive in another order. -/
theorem project_round_trip (p : Project) (v : Json)
    (moved : ((Project.codec Json).encode p).Rearranged v) :
    (Project.codec Json).decode v = .ok p ∧ Project.survey v = .ok ⟨p, []⟩ := by
  have read : (Project.codec Json).decode v = .ok p := (Project.codec_carries p).recovers v moved
  obtain ⟨members, rfl, once, -⟩ := moved.of_obj_distinct (Fields.write_keys_nodup (by decide) _)
  exact ⟨read, survey_of_decode once read⟩

/-- A project with a worker that sends what it has fetched; what can be left out is left out in some
records and there in others. -/
def courier : Project :=
  let place : Span := ⟨"worker.go", 4294967295, 0⟩
  let call : Call := ⟨"Fetch", some "net", none, ["url"], place⟩
  let run : FuncDecl :=
    ⟨"Run", some "Worker", [⟨"", "string"⟩], [], true, place,
      some ⟨[call], [⟨call, place⟩], [⟨"out", .send, place⟩]⟩⟩
  ⟨.python, "courier", "", [⟨"net", "", true⟩],
    [⟨"", "worker", "pkg/worker", ["worker.go"], [⟨"net", none, some place⟩, ⟨"log", some "l", none⟩],
      [⟨"Worker", "", [⟨"out", "chan", false, none⟩], [run], true, place⟩], [],
      [{ run with receiverType := none, body := none }]⟩]⟩

/-- The project with its members in the order of their keys. -/
def courierByKey : Json :=
  .obj [("language", .str "python"), ("moduleName", .str "courier"), ("moduleRoot", .str ""),
    ("packages", (Package.codec Json).list.encode courier.packages),
    ("requires", (Requirement.codec Json).list.encode courier.requires)]

theorem project_round_trip_courier :
    ((Project.codec Json).encode courier).Rearranged courierByKey ∧
      (Project.codec Json).decode courierByKey = .ok courier ∧
      Project.survey courierByKey = .ok ⟨courier, []⟩ := by
  have moved : ((Project.codec Json).encode courier).Rearranged courierByKey :=
    Json.Rearranged.of_perm (.cons _ (.cons _ (.cons _ (.swap _ _ _))))
  exact ⟨moved, project_round_trip courier courierByKey moved⟩

end Facts

end ArchAtlas
