import GitPractice.Proofs.Dispatch

/-!
# Files in both areas

A file is meant to be in the staging area or in the working directory. Every
action but one sees to it: a file is created only under a new name, and staging
takes it out of the working directory. Setting the repository up puts the
placeholder file into the working directory without a look at what is staged, so
the placeholder is in both areas when it was staged before.

A line cannot do this, since nothing can be staged without a repository, and a
repository is set up only once. Dispatched actions can. `inBoth_dispatchAll_iff`
says that this is the only way, and that no other file is ever in both areas.
-/

namespace GitPractice
namespace Snapshot

/-- There is a file of this name in the staging area and one in the working directory. -/
def InBoth (s : Snapshot) (name : String) : Prop :=
  name ∈ s.staged.map (·.name) ∧ name ∈ s.working.map (·.name)

instance (s : Snapshot) (name : String) : Decidable (s.InBoth name) :=
  inferInstanceAs (Decidable (_ ∧ _))

variable {s s' : Snapshot} {id name : String} {now : Timestamp} {a : Action}

theorem inBoth_create_iff :
    s.create.InBoth name ↔ name = placeholderFile ∧ placeholderFile ∈ s.staged.map (·.name) := by
  have hworking : name ∈ s.create.working.map (·.name) ↔ name = placeholderFile :=
    List.mem_singleton
  rw [InBoth, hworking]
  constructor
  · rintro ⟨hstaged, rfl⟩
    exact ⟨rfl, hstaged⟩
  · rintro ⟨rfl, hstaged⟩
    exact ⟨hstaged, rfl⟩

theorem InBoth.of_stage {names : List String} (h : (s.stage names).InBoth name) :
    s.InBoth name := by
  obtain ⟨hstaged, hworking⟩ := h
  rw [map_name_working_stage, List.mem_filter, decide_eq_true_iff] at hworking
  obtain ⟨hworking, hleft⟩ := hworking
  rw [map_name_staged_stage, List.mem_append] at hstaged
  rcases hstaged with hkept | hmoved
  · obtain ⟨f, hf, rfl⟩ := List.mem_map.mp hkept
    exact ⟨List.mem_map_of_mem (List.mem_of_mem_filter hf), hworking⟩
  · -- What is moved is not left behind.
    exact absurd hmoved hleft

theorem InBoth.of_modifyFile {other : String} (h : (s.modifyFile other).InBoth name) :
    s.InBoth name := by
  have hworking : (s.modifyFile other).working.map (·.name) = s.working.map (·.name) :=
    List.append_cancel_left (fileNames_modifyFile s other)
  rw [InBoth, hworking] at h
  exact h

/-- No action but `create` brings a file into both areas. -/
theorem Effect.inBoth (h : s.Effect id now a s') (hb : s'.InBoth name) :
    s.InBoth name ∨
      a = .create ∧ name = placeholderFile ∧ placeholderFile ∈ s.staged.map (·.name) := by
  cases h with
  | create => exact Or.inr ⟨rfl, inBoth_create_iff.mp hb⟩
  | @createFile new hn =>
    obtain ⟨hstaged, hworking⟩ := hb
    rw [List.map_append, List.mem_append, List.map_singleton, List.mem_singleton] at hworking
    rcases hworking with hworking | rfl
    · exact Or.inl ⟨hstaged, hworking⟩
    · exact absurd (List.mem_append_left _ hstaged) hn
  | modifyFile => exact Or.inl hb.of_modifyFile
  | stage => exact Or.inl hb.of_stage
  | commit => cases hb.1
  | @reset mode =>
    by_cases hmode : mode = .hard
    · simp [InBoth, hmode] at hb
    · refine Or.inl ?_
      simpa only [InBoth, if_neg hmode] using hb
  | resetAll => cases hb.1
  | _ => exact Or.inl hb

end Snapshot

namespace Session

variable {source : Source} {actions more : List Action} {name : String}

/-- At some point the repository is set up while the placeholder file is staged. -/
def SetsUpOver (source : Source) (actions : List Action) : Prop :=
  ∃ before, before ++ [.create] <+: actions ∧
    placeholderFile ∈ (dispatchAll source {} before).snapshot.staged.map (·.name)

theorem SetsUpOver.mono (h : SetsUpOver source actions) (hpart : actions <+: more) :
    SetsUpOver source more := by
  obtain ⟨before, hbefore, hstaged⟩ := h
  exact ⟨before, hbefore.trans hpart, hstaged⟩

theorem setsUpOver_of_inBoth (h : (dispatchAll source {} actions).snapshot.InBoth name) :
    name = placeholderFile ∧ SetsUpOver source actions := by
  induction actions using List.reverseRecOn with
  | nil => cases h.1
  | append_singleton actions a ih =>
    rw [dispatchAll_concat] at h
    obtain ⟨id, now, heffect⟩ := dispatch_effect source (dispatchAll source {} actions) a
    -- Either the file has been in both areas before, or this is the action that brings it there.
    rcases heffect.inBoth h with hbefore | ⟨rfl, hname, hstaged⟩
    · obtain ⟨hname, hsets⟩ := ih hbefore
      exact ⟨hname, hsets.mono (List.prefix_append _ _)⟩
    · exact ⟨hname, actions, List.prefix_refl _, hstaged⟩

/-- Whatever actions are dispatched from the beginning, in whatever order: only the placeholder file
is ever in both areas, and it comes to be there in exactly those runs that set the repository up
while it is staged. -/
theorem inBoth_dispatchAll_iff (source : Source) (actions : List Action) :
    (∀ name, (dispatchAll source {} actions).snapshot.InBoth name → name = placeholderFile) ∧
      ((∃ before name, before <+: actions ∧ (dispatchAll source {} before).snapshot.InBoth name) ↔
        SetsUpOver source actions) := by
  refine ⟨fun name h => (setsUpOver_of_inBoth h).1, ?_, ?_⟩
  · rintro ⟨before, name, hpart, h⟩
    exact (setsUpOver_of_inBoth h).2.mono hpart
  · rintro ⟨before, hpart, hstaged⟩
    refine ⟨before ++ [.create], placeholderFile, hpart, ?_⟩
    rw [dispatchAll_concat]
    exact Snapshot.inBoth_create_iff.mpr ⟨rfl, hstaged⟩

/-- The placeholder file is created by hand and staged before the repository is set up. -/
theorem inBoth_of_staged_placeholder :
    (dispatchAll .sample {} [.createFile "README.md", .stage ["README.md"], .create]).snapshot.InBoth
      "README.md" := by
  decide +kernel

end Session
end GitPractice
