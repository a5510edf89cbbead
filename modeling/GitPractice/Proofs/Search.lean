import GitPractice.Proofs.Words
import GitPractice.Topic.Search
import Mathlib.Data.List.Nodup

/-!
# Results of a search

Results are put in order by their scores, and topics with the same scores stay in
the order of the catalogue. No two topics are in the same place of this order, so
results are known from which topics are among them (`eq_of_before`). From that it
follows that results nest by their threshold and split up by their category
(`search_nests`), whatever the scores are.
-/

namespace GitPractice

namespace Text

theorem lowerChar_ne_nil (before : List Char) (c : Char) (after : List Char) :
    lowerChar before c after ≠ [] := by
  rw [lowerChar]
  split
  · split <;> simp
  · split <;> simp

theorem lower_eq_empty_iff (s : String) : lower s = "" ↔ s = "" := by
  constructor
  · intro h
    have hchars : lowerFrom [] s.toList = [] := String.ofList_eq_empty_iff.mp h
    cases hs : s.toList with
    | nil => exact String.toList_eq_nil_iff.mp hs
    | cons c cs =>
      rw [hs, lowerFrom] at hchars
      exact absurd (List.append_eq_nil_iff.mp hchars).1 (lowerChar_ne_nil _ _ _)
  · rintro rfl
    rfl

end Text

section Lists

variable {α : Type} {l : List α} {a b : α}

/-- Along a list without repeats the places go up. -/
theorem pairwise_idxOf [DecidableEq α] (h : l.Nodup) : l.Pairwise fun a b => l.idxOf a < l.idxOf b := by
  rw [List.pairwise_iff_getElem]
  intro i j hi hj hij
  rwa [h.idxOf_getElem i hi, h.idxOf_getElem j hj]

theorem idxOf_lt_of_sublist [DecidableEq α] (h : l.Nodup) (hab : [a, b].Sublist l) : l.idxOf a < l.idxOf b :=
  List.pairwise_iff_forall_sublist.mp (pairwise_idxOf h) hab

/-- Of two elements one stands before the other. -/
theorem sublist_or_swap (ha : a ∈ l) (hb : b ∈ l) (hne : a ≠ b) : [a, b].Sublist l ∨ [b, a].Sublist l := by
  induction l with
  | nil => cases ha
  | cons c l ih =>
    rcases List.mem_cons.mp ha with rfl | hal
    · have hbl : b ∈ l := (List.mem_cons.mp hb).resolve_left (Ne.symm hne)
      exact Or.inl ((List.singleton_sublist.mpr hbl).cons_cons a)
    · rcases List.mem_cons.mp hb with rfl | hbl
      · exact Or.inr ((List.singleton_sublist.mpr hal).cons_cons b)
      · exact (ih hal hbl).imp (.cons c) (.cons c)

/-- What a list begins with is all that is kept of it, if nothing is kept behind what is not. -/
theorem filter_of_pairwise {p : α → Bool} (h : l.Pairwise fun a b => p b = true → p a = true) :
    l.filter p <+: l := by
  induction l with
  | nil => exact List.prefix_rfl
  | cons a l ih =>
    obtain ⟨ha, hl⟩ := List.pairwise_cons.mp h
    cases hp : p a with
    | true =>
      rw [List.filter_cons_of_pos hp]
      exact List.cons_prefix_cons.mpr ⟨rfl, ih hl⟩
    | false =>
      have hnone : (a :: l).filter p = [] := by
        rw [List.filter_eq_nil_iff, List.forall_mem_cons]
        exact ⟨by simp [hp], fun b hb hpb => by simp [ha b hb hpb] at hp⟩
      rw [hnone]
      exact List.nil_prefix

end Lists

namespace Topic

/-- The order of results: by the best score, then by the score of the id, the higher one first each
time, then as in the catalogue. -/
def Before (score : Topic → Score) (a b : Topic) : Prop :=
  (score b).best < (score a).best ∨
    (score b).best = (score a).best ∧
      ((score b).id < (score a).id ∨
        (score b).id = (score a).id ∧ catalog.idxOf a < catalog.idxOf b)

/-- The topics whose best score reaches the threshold, the best ones first. -/
def ranked (score : Topic → Score) (threshold : Int) (topics : List Topic) : List Topic :=
  (topics.filter fun t => threshold ≤ ((score t).best : Int)).mergeSort fun a b =>
    (score a).notAfter (score b)

variable {score : Topic → Score} {threshold : Int} {topics others : List Topic} {t a b : Topic}

/-! ## Any scoring -/

theorem nodup_catalog : catalog.Nodup := by
  have hids : (catalog.map (·.id)).Nodup := by decide +kernel
  exact List.Nodup.of_map _ hids

theorem Score.notAfter_iff {a b : Score} :
    a.notAfter b = true ↔ b.best < a.best ∨ (a.best = b.best ∧ b.id ≤ a.id) := by
  simp [notAfter]

theorem Score.notAfter_trans (a b c : Score) (hab : a.notAfter b = true) (hbc : b.notAfter c = true) :
    a.notAfter c = true := by
  rw [notAfter_iff] at hab hbc ⊢
  omega

theorem Score.notAfter_total (a b : Score) : (a.notAfter b || b.notAfter a) = true := by
  rw [Bool.or_eq_true, notAfter_iff, notAfter_iff]
  omega

theorem Before.asymm (hab : Before score a b) : ¬ Before score b a := by
  unfold Before at *
  omega

theorem mem_ranked_iff : t ∈ ranked score threshold topics ↔
    t ∈ topics ∧ threshold ≤ ((score t).best : Int) := by
  rw [ranked, List.mem_mergeSort, List.mem_filter, decide_eq_true_eq]

theorem nodup_ranked (h : topics.Nodup) : (ranked score threshold topics).Nodup :=
  (List.mergeSort_perm _ _).nodup_iff.mpr (h.filter _)

theorem notAfter_of_sublist (h : [a, b].Sublist (ranked score threshold topics)) :
    (score a).notAfter (score b) = true :=
  List.pairwise_iff_forall_sublist.mp (List.pairwise_mergeSort
    (fun a b c => Score.notAfter_trans (score a) (score b) (score c))
    (fun a b => Score.notAfter_total (score a) (score b)) _) h

/-- The sorting is stable. -/
theorem sublist_ranked (hle : (score a).notAfter (score b) = true)
    (h : [a, b].Sublist (topics.filter fun t => threshold ≤ ((score t).best : Int))) :
    [a, b].Sublist (ranked score threshold topics) :=
  List.pair_sublist_mergeSort (fun a b c => Score.notAfter_trans (score a) (score b) (score c))
    (fun a b => Score.notAfter_total (score a) (score b)) hle h

/-- Topics with the same scores stay in the order of the catalogue. -/
theorem pairwise_ranked (h : topics.Sublist catalog) :
    (ranked score threshold topics).Pairwise (Before score) := by
  have hnodup : (ranked score threshold topics).Nodup := nodup_ranked (h.nodup nodup_catalog)
  rw [List.pairwise_iff_forall_sublist]
  intro a b hab
  have hsorted : (score a).notAfter (score b) = true := notAfter_of_sublist hab
  by_cases htie : (score b).notAfter (score a) = true
  · have hne : a ≠ b := by
      rintro rfl
      exact List.nodup_iff_sublist.mp hnodup a hab
    have hmem (c : Topic) (hc : c ∈ [a, b]) :
        c ∈ topics.filter fun t => threshold ≤ ((score t).best : Int) :=
      List.mem_mergeSort.mp (hab.subset hc)
    have hplaces : catalog.idxOf a < catalog.idxOf b := by
      rcases sublist_or_swap (hmem a (by simp)) (hmem b (by simp)) hne with hkept | hswapped
      · exact idxOf_lt_of_sublist nodup_catalog (hkept.trans (List.filter_sublist.trans h))
      · have hback : [b, a].Sublist (ranked score threshold topics) := sublist_ranked htie hswapped
        have := idxOf_lt_of_sublist hnodup hab
        have := idxOf_lt_of_sublist hnodup hback
        omega
    rw [Score.notAfter_iff] at hsorted htie
    unfold Before
    omega
  · rw [Score.notAfter_iff] at hsorted htie
    unfold Before
    omega

/-- Results are known from which topics there are in them. -/
theorem eq_of_before (ha : topics.Pairwise (Before score)) (hb : others.Pairwise (Before score))
    (hmem : ∀ t, t ∈ topics ↔ t ∈ others) : topics = others := by
  have hnodup {ts : List Topic} (hts : ts.Pairwise (Before score)) : ts.Nodup :=
    hts.imp fun hab he => by
      subst he
      exact hab.asymm hab
  exact List.Perm.eq_of_pairwise (fun a b _ _ hab hba => absurd hba hab.asymm) ha hb
    ((List.perm_ext_iff_of_nodup (hnodup ha) (hnodup hb)).mpr hmem)

/-- A higher threshold leaves a beginning of the results. -/
theorem ranked_of_le (h : topics.Sublist catalog) {higher : Int} (hle : threshold ≤ higher) :
    ranked score higher topics <+: ranked score threshold topics := by
  have hpairwise : (ranked score threshold topics).Pairwise (Before score) := pairwise_ranked h
  have hfilter : ranked score higher topics =
      (ranked score threshold topics).filter fun t => higher ≤ ((score t).best : Int) := by
    refine eq_of_before (pairwise_ranked h) (hpairwise.filter _) fun t => ?_
    rw [List.mem_filter, mem_ranked_iff, mem_ranked_iff, decide_eq_true_eq, and_assoc,
      and_iff_right_of_imp (Int.le_trans hle)]
  rw [hfilter]
  refine filter_of_pairwise (hpairwise.imp fun hab => ?_)
  simp only [decide_eq_true_eq]
  unfold Before at hab
  omega

theorem ranked_filter (h : topics.Sublist catalog) (p : Topic → Bool) :
    ranked score threshold (topics.filter p) = (ranked score threshold topics).filter p := by
  refine eq_of_before (pairwise_ranked (List.filter_sublist.trans h))
    ((pairwise_ranked h).filter p) fun t => ?_
  rw [List.mem_filter, mem_ranked_iff, mem_ranked_iff, List.mem_filter]
  exact and_right_comm

/-! ## Searching -/

variable {query : String} {category : Option String}

theorem candidates_sublist (category : Option String) : (candidates category).Sublist catalog := by
  cases category with
  | none => exact List.Sublist.refl _
  | some c =>
    rw [candidates]
    split
    · exact List.Sublist.refl _
    · exact List.filter_sublist

theorem searchKey_eq_empty_iff (query : String) : searchKey query = "" ↔ Text.words query = [] := by
  rw [searchKey, Text.lower_eq_empty_iff, Text.strip_eq_empty_iff]

theorem search_of_blank (h : Text.words query = []) (category : Option String) (threshold : Int) :
    search query category threshold = candidates category := by
  rw [search, if_pos ((searchKey_eq_empty_iff query).mpr h)]

/-- Scores are worked out first and dropped in the end, which makes no difference to sorting. -/
theorem search_of_words (h : Text.words query ≠ []) (category : Option String) (threshold : Int) :
    search query category threshold =
      ranked (·.score (searchKey query)) threshold (candidates category) := by
  have hsort (ts : List Topic) : (ts.map fun t => (t.score (searchKey query), t)).mergeSort
      (fun a b => a.1.notAfter b.1) =
        (ts.mergeSort fun a b =>
          (a.score (searchKey query)).notAfter (b.score (searchKey query))).map
            fun t => (t.score (searchKey query), t) :=
    (List.map_mergeSort (by intros; rfl)).symm
  simp only [search, if_neg (mt (searchKey_eq_empty_iff query).mp h)]
  rw [List.filter_map, hsort, List.map_map]
  exact List.map_id _

/-- Whether a topic is of the category, case making no difference. -/
def isOf (category : String) (t : Topic) : Bool := Text.lower t.category = Text.lower category

theorem candidates_of_ne {category : String} (h : category ≠ "") :
    candidates (some category) = (candidates none).filter (isOf category) := by
  show (if category = "" then catalog else inCategory category) = _
  rw [if_neg h]
  rfl

/-- Results nest by their threshold and split up by their category. Those for a query with a word are
the candidates that reach the threshold, each once, in order. -/
theorem search_nests (query : String) :
    (∀ category (threshold higher : Int), threshold ≤ higher →
      search query category higher <+: search query category threshold) ∧
    (∀ category threshold, category ≠ "" →
      search query (some category) threshold = (search query none threshold).filter (isOf category)) ∧
    (Text.words query ≠ [] → ∀ category threshold,
      (search query category threshold).Nodup ∧
      (∀ t, t ∈ search query category threshold ↔
        t ∈ candidates category ∧ threshold ≤ ((t.score (searchKey query)).best : Int)) ∧
      (search query category threshold).Pairwise (Before (·.score (searchKey query)))) := by
  refine ⟨fun category threshold higher hle => ?_, fun category threshold hne => ?_,
    fun h category threshold => ?_⟩
  · by_cases h : Text.words query = []
    · have hsame : search query category higher = search query category threshold := by
        rw [search_of_blank h, search_of_blank h]
      exact ⟨[], by rw [List.append_nil, hsame]⟩
    · rw [search_of_words h, search_of_words h]
      exact ranked_of_le (candidates_sublist category) hle
  · by_cases h : Text.words query = []
    · rw [search_of_blank h, search_of_blank h, candidates_of_ne hne]
    · rw [search_of_words h, search_of_words h, candidates_of_ne hne]
      exact ranked_filter (candidates_sublist none) (isOf category)
  · rw [search_of_words h]
    have hcandidates : (candidates category).Sublist catalog := candidates_sublist category
    exact ⟨nodup_ranked (hcandidates.nodup nodup_catalog), fun t => mem_ranked_iff,
      pairwise_ranked hcandidates⟩

/-- Every command has the word in its name, so that only ids and places tell the topics apart. -/
theorem search_nests_of_git :
    search "git" (some "BASICS") 90 <+: search "git" (some "BASICS") 60 ∧
    search "git" (some "BASICS") 60 = (search "git" none 60).filter (isOf "BASICS") ∧
    (search "git" none 60).Nodup ∧
    (∀ t, t ∈ search "git" none 60 ↔
      t ∈ candidates none ∧ (60 : Int) ≤ ((t.score (searchKey "git")).best : Int)) ∧
    (search "git" none 60).Pairwise (Before (·.score (searchKey "git"))) :=
  ⟨(search_nests "git").1 _ _ _ (by decide), (search_nests "git").2.1 _ _ (by decide),
    (search_nests "git").2.2 (by decide) _ _⟩

end Topic
end GitPractice
