import GitPractice.Proofs.Likeness
import GitPractice.Proofs.Search
import GitPractice.Proofs.SmallLetters

/-!
# Exact hits

A query that occurs in one of the texts of a topic has the best score there, which is
100, so the topic is found whatever threshold is asked for (`Topic.hits_found`). Nothing
but topics with that score comes before it.
-/

namespace GitPractice
namespace Topic

variable {t : Topic} {key query : String}

/-- The key occurs in the id, or in another one of the texts when that is put in small letters. -/
def Hit (t : Topic) (key : String) : Prop :=
  key.toList <:+: t.id.toList ∨
    ∃ s ∈ t.name :: t.description :: t.useCases, key.toList <:+: (Text.lower s).toList

theorem best_le (t : Topic) (key : String) : (t.score key).best ≤ 100 := by
  refine Similarity.foldl_max_le fun n hn => ?_
  obtain ⟨s, -, rfl⟩ := List.mem_map.mp hn
  exact Similarity.partialRatio_le _ _

theorem best_of_part {s : String} (hs : s ∈ t.searched) (hne : key ≠ "")
    (h : key.toList <:+: (Text.lower s).toList) : (t.score key).best = 100 := by
  have hchars : key.toList ≠ [] := mt String.toList_eq_nil_iff.mp hne
  refine Nat.le_antisymm (best_le t key) ?_
  rw [← Similarity.partialRatio_of_part hchars h]
  exact Screen.le_foldl_max_map (fun s => Similarity.partialRatio key.toList (Text.lower s).toList) hs

/-- The key is in small letters, so in an id it is not lost when case is dropped. -/
theorem best_of_hit (hne : searchKey query ≠ "") (h : t.Hit (searchKey query)) :
    (t.score (searchKey query)).best = 100 := by
  rcases h with hid | ⟨s, hs, hpart⟩
  · exact best_of_part List.mem_cons_self hne (Text.infix_lower (fun _ hc => Text.isSmall_of_mem_lower hc) hid)
  · exact best_of_part (List.mem_cons_of_mem _ hs) hne hpart

/-- A topic is found by every part of its texts, and only topics with the same best score come before
it. All scores are at most 100. -/
theorem hits_found :
    (∀ query, searchKey query ≠ "" → ∀ t : Topic, t.Hit (searchKey query) →
      (t.score (searchKey query)).best = 100 ∧
      ∀ category (threshold : Int), t ∈ candidates category → threshold ≤ 100 →
        t ∈ search query category threshold ∧
        ∀ u, [u, t].Sublist (search query category threshold) → (u.score (searchKey query)).best = 100) ∧
    ∀ (t : Topic) (key : String), (t.score key).best ≤ 100 ∧ (t.score key).id ≤ 100 := by
  refine ⟨fun query hne t hhit => ?_, fun t key => ⟨best_le t key, Similarity.partialRatio_le _ _⟩⟩
  have hbest : (t.score (searchKey query)).best = 100 := best_of_hit hne hhit
  refine ⟨hbest, fun category threshold ht hle => ?_⟩
  rw [search_of_words (mt (searchKey_eq_empty_iff query).mpr hne)]
  refine ⟨mem_ranked_iff.mpr ⟨ht, by omega⟩, fun u hu => ?_⟩
  have hle := best_le u (searchKey query)
  have horder := Score.notAfter_iff.mp (notAfter_of_sublist hu)
  omega

/-- A part at the very end of a description, typed in capitals with blanks around it. -/
theorem hits_found_of_ending :
    let merge : Topic := catalog.getD 8 default
    merge.id = "merge" ∧ searchKey " TOGETHER. " = "together." ∧
      (merge.score (searchKey " TOGETHER. ")).best = 100 ∧ merge ∈ search " TOGETHER. " none 100 ∧
      (merge.score (searchKey " TOGETHER. ")).id ≤ 100 := by
  have hkey : searchKey " TOGETHER. " = "together." := by decide +kernel
  have hhit : (catalog.getD 8 default).Hit (searchKey " TOGETHER. ") := by
    rw [hkey]
    exact Or.inr ⟨_, List.mem_cons_of_mem _ List.mem_cons_self,
      "join two or more development histories ".toList, [], by decide +kernel⟩
  obtain ⟨hbest, hfound⟩ := hits_found.1 " TOGETHER. " (by decide +kernel) _ hhit
  exact ⟨rfl, hkey, hbest, (hfound none 100 (by decide +kernel) (by decide)).1, (hits_found.2 _ _).2⟩

end Topic
end GitPractice
