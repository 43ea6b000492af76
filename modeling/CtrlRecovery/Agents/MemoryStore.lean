import CtrlRecovery.Core.Ranking
import CtrlRecovery.Security.ApiKeys
import Mathlib.Data.String.Basic

/-!
# The memories of the agents

`AgentMemoryStore` keeps what the agents remember in a table and in a vector store, and lets a
mission see only what was created at or before its cutoff. Each of the three queries passes what it
has found to `TemporalMemoryFirewall.filterMemories`. Two of them cut off what they have found
before that: the episodes at 50 rows, the search at twice as many matches as are asked for.

`memories_unchanged_iff` compares two stores that differ only in memories from after the cutoff: the
results are the same exactly when no memory of the past that counts for them is cut off in one store
only, where what comes before it is counted in the stores. How a text is read as a time and how similar
two texts are is left to the parameters `getTime` and `similarity`.
-/

namespace CtrlRecovery

open Core

inductive MemoryType
  | working
  | episodic
  | semantic
  deriving DecidableEq, Repr

/-- A row of `agent_memories`, as far as the queries look at it. -/
structure AgentMemoryItem where
  id : String
  memoryType : MemoryType
  runId : Option String
  failureType : Option String
  contextSummary : String
  actionTaken : Option String
  semanticKey : Option String
  semanticValue : Option String
  createdAt : String
  deriving DecidableEq, Repr

/-- A document of the vector store; its vector is computed from the text. -/
structure VectorDocument where
  id : String
  text : String
  metadata : AgentMemoryItem
  deriving DecidableEq, Repr

/-- The rows in the order in which the database comes to them, and the documents in the order in
which they were added; both have ids of their own. -/
structure MemoryStore where
  memories : List AgentMemoryItem
  documents : List VectorDocument
  nodup_memories : (memories.map (·.id)).Nodup
  nodup_documents : (documents.map (·.id)).Nodup
  deriving DecidableEq

structure SimilarMemory where
  item : AgentMemoryItem
  similarity : ℚ
  deriving DecidableEq, Repr

namespace AgentMemoryStore

/-! ### The temporal firewall -/

/-- `new Date(a).getTime() <= new Date(b).getTime()`, false when one of them is not a time. -/
def notAfter (getTime : String → Option ℤ) (a b : String) : Bool :=
  (getTime a).any fun s => (getTime b).any fun t => s ≤ t

/-- The test of `TemporalMemoryFirewall.filterMemories`. -/
def isVisible (getTime : String → Option ℤ) (cutoff : String) (memory : AgentMemoryItem) : Bool :=
  notAfter getTime memory.createdAt cutoff

def filterMemories (getTime : String → Option ℤ) (memories : List AgentMemoryItem)
    (cutoff : String) : List AgentMemoryItem :=
  memories.filter (isVisible getTime cutoff)

/-! ### The queries -/

/-- `AND created_at <= ?`, left out for an empty timestamp. -/
def createdBy (maxTimestamp : String) (memory : AgentMemoryItem) : Bool :=
  maxTimestamp = "" || memory.createdAt ≤ maxTimestamp

def isEpisode (failureType : Option String) (maxTimestamp : String) (memory : AgentMemoryItem) :
    Bool :=
  memory.memoryType = .episodic &&
    (Js.orElse failureType "" = "" || memory.failureType = failureType) &&
      createdBy maxTimestamp memory

/-- `ORDER BY created_at DESC LIMIT 50`. -/
def getEpisodicMemories (memories : List AgentMemoryItem) (failureType : Option String)
    (maxTimestamp : String) : List AgentMemoryItem :=
  (rank AgentMemoryItem.createdAt (memories.filter (isEpisode failureType maxTimestamp))).take 50

/-- `semantic_key LIKE ?` for what starts with the text. -/
def keyLike (start key : String) : Bool :=
  Like.like (ApiKeyService.likeDialect .sqlite) (start.toList ++ ['%']) key.toList

def isPattern (keyPrefix : Option String) (maxTimestamp : String) (memory : AgentMemoryItem) :
    Bool :=
  memory.memoryType = .semantic &&
    (Js.orElse keyPrefix "" = "" || memory.semanticKey.any (keyLike (keyPrefix.getD ""))) &&
      createdBy maxTimestamp memory

def getSemanticMemories (memories : List AgentMemoryItem) (keyPrefix : Option String)
    (maxTimestamp : String) : List AgentMemoryItem :=
  rank AgentMemoryItem.createdAt (memories.filter (isPattern keyPrefix maxTimestamp))

/-- The documents that are similar enough, best first; equally similar ones in the order in which
they were added. -/
def similarDocuments (similarity : String → String → ℚ) (documents : List VectorDocument)
    (queryText : String) (minSimilarity : ℚ) : List SimilarMemory :=
  rank SimilarMemory.similarity
    ((documents.filter fun doc => minSimilarity ≤ similarity queryText doc.text).map fun doc =>
      ⟨doc.metadata, Js.roundFixed (similarity queryText doc.text) 4⟩)

def searchSimilar (similarity : String → String → ℚ) (documents : List VectorDocument)
    (queryText : String) (topK minSimilarity : ℚ) : List SimilarMemory :=
  Js.sliceTo topK (similarDocuments similarity documents queryText minSimilarity)

def queryEpisodicMemories (getTime : String → Option ℤ) (store : MemoryStore)
    (failureType cutoffTimestamp : Option String) (limit : Option ℚ) (now : String) :
    List AgentMemoryItem :=
  let cutoff := Js.orElse cutoffTimestamp now
  Js.sliceTo (Js.orDefault (Js.orZero limit) 10)
    (filterMemories getTime (getEpisodicMemories store.memories failureType cutoff) cutoff)

def querySemanticMemories (getTime : String → Option ℤ) (store : MemoryStore)
    (keyPrefix cutoffTimestamp : Option String) (limit : Option ℚ) (now : String) :
    List AgentMemoryItem :=
  let cutoff := Js.orElse cutoffTimestamp now
  Js.sliceTo (Js.orDefault (Js.orZero limit) 20)
    (filterMemories getTime (getSemanticMemories store.memories keyPrefix cutoff) cutoff)

def searchSimilarMemories (getTime : String → Option ℤ) (similarity : String → String → ℚ)
    (store : MemoryStore) (query : String) (cutoffTimestamp : Option String)
    (topK minSimilarity : Option ℚ) (now : String) : List SimilarMemory :=
  let cutoff := Js.orElse cutoffTimestamp now
  let topK := Js.orDefault (Js.orZero topK) 5
  let found :=
    searchSimilar similarity store.documents query (topK * 2) (minSimilarity.getD (1 / 10))
  Js.sliceTo topK (found.filter fun memory => isVisible getTime cutoff memory.item)

/-! ### Stores that differ in the future -/

def SamePast (getTime : String → Option ℤ) (cutoff : String) (s t : MemoryStore) : Prop :=
  s.memories.filter (isVisible getTime cutoff) = t.memories.filter (isVisible getTime cutoff) ∧
    s.documents.filter (fun doc => isVisible getTime cutoff doc.metadata) =
      t.documents.filter fun doc => isVisible getTime cutoff doc.metadata

/-- A memory that `k` others of the past come before counts for `slice(0, n)`; a negative `n` drops the
last ones, so that those that `⌊-n⌋` others come before count. -/
def Counts (n : ℚ) (k : ℕ) : Prop := if 0 ≤ n then k < ⌊n⌋₊ else ⌊-n⌋₊ ≤ k

instance (n : ℚ) (k : ℕ) : Decidable (Counts n k) := inferInstanceAs (Decidable (ite ..))

section CutAlike

variable {α ι : Type*} [LinearOrder ι] [DecidableEq α]

/-- Of two lists, the elements with a property are ranked and cut off, one at `c` and the other at `d`,
and then filtered. Of those that the filter keeps and that count for `slice(0, n)`, none is cut off in
one list only. -/
def CutAlike (f : α → ι) (p q : α → Bool) (xs ys : List α) (c d : ℕ) (n : ℚ) : Prop :=
  ∀ a ∈ xs, q a → p a → Counts n (ahead f xs (fun b => q b && p b) a) →
    (ahead f xs p a < c ↔ ahead f ys p a < d)

instance (f : α → ι) (p q : α → Bool) (xs ys : List α) (c d : ℕ) (n : ℚ) :
    Decidable (CutAlike f p q xs ys c d n) :=
  inferInstanceAs (Decidable (∀ a ∈ xs, _))

end CutAlike

/-- No episode of the past that counts for the limit is among the 50 newest rows in one store only. -/
def EpisodesCutAlike (getTime : String → Option ℤ) (s t : MemoryStore) (failureType : Option String)
    (cutoff : String) (limit : Option ℚ) : Prop :=
  CutAlike AgentMemoryItem.createdAt (isEpisode failureType cutoff) (isVisible getTime cutoff)
    s.memories t.memories 50 50 (Js.orDefault (Js.orZero limit) 10)

/-- A document is similar enough. -/
def isMatch (similarity : String → String → ℚ) (query : String) (minSimilarity : Option ℚ)
    (doc : VectorDocument) : Bool :=
  minSimilarity.getD (1 / 10) ≤ similarity query doc.text

/-- No document of the past that counts for `topK` is among the `2 * topK` best in one store only. -/
def MatchesCutAlike (getTime : String → Option ℤ) (similarity : String → String → ℚ)
    (s t : MemoryStore) (query cutoff : String) (topK minSimilarity : Option ℚ) : Prop :=
  let topK := Js.orDefault (Js.orZero topK) 5
  let isMatch := isMatch similarity query minSimilarity
  CutAlike (fun doc => Js.roundFixed (similarity query doc.text) 4) isMatch
    (fun doc => isVisible getTime cutoff doc.metadata) s.documents t.documents
    (Js.sliceLength (topK * 2) (s.documents.countP isMatch))
    (Js.sliceLength (topK * 2) (t.documents.countP isMatch)) topK

instance (getTime : String → Option ℤ) (s t : MemoryStore) (failureType : Option String)
    (cutoff : String) (limit : Option ℚ) :
    Decidable (EpisodesCutAlike getTime s t failureType cutoff limit) :=
  inferInstanceAs (Decidable (CutAlike ..))

instance (getTime : String → Option ℤ) (similarity : String → String → ℚ) (s t : MemoryStore)
    (query cutoff : String) (topK minSimilarity : Option ℚ) :
    Decidable (MatchesCutAlike getTime similarity s t query cutoff topK minSimilarity) :=
  inferInstanceAs (Decidable (CutAlike ..))

section Queries

variable {getTime : String → Option ℤ} {similarity : String → String → ℚ} {s t : MemoryStore}
  {cutoff now query : String} {failureType keyPrefix cutoffTimestamp : Option String}
  {limit topK minSimilarity : Option ℚ}

/-- Two lists that a filter makes equal, cut off before it: what is left of them, up to a limit, is
the same when it is equally much. -/
lemma sliceTo_filter_eq_iff {α : Type*} {p : α → Bool} {xs ys xs' ys' : List α} {n : ℚ}
    (h : xs.filter p = ys.filter p) (hx : xs' <+: xs) (hy : ys' <+: ys) :
    Js.sliceTo n (xs'.filter p) = Js.sliceTo n (ys'.filter p) ↔
      Js.sliceLength n (xs'.countP p) = Js.sliceLength n (ys'.countP p) := by
  have hx' : Js.sliceTo n (xs'.filter p) <+: xs.filter p :=
    (Js.prefix_sliceTo ..).trans (hx.filter p)
  have hy' : Js.sliceTo n (ys'.filter p) <+: xs.filter p :=
    h ▸ (Js.prefix_sliceTo ..).trans (hy.filter p)
  rw [eq_iff_length_eq hx' hy', Js.length_sliceTo, Js.length_sliceTo,
    List.countP_eq_length_filter, List.countP_eq_length_filter]

/-- Up to a slice, two numbers are the same when no index that counts lies between them. -/
lemma sliceLength_eq_iff {n : ℚ} {a b length : ℕ} (ha : a ≤ length) (hb : b ≤ length) :
    Js.sliceLength n a = Js.sliceLength n b ↔ ∀ k < length, Counts n k → (k < a ↔ k < b) := by
  simp only [Js.sliceLength, Counts]
  split_ifs with hn
  · constructor
    · intro h k _ hk
      omega
    · intro h
      have hmin := h (min a b)
      have hless := h (min a b - 1)
      omega
  · constructor
    · intro h k _ hk
      omega
    · intro h
      by_contra hne
      have hmin := h (max (min a b) ⌊-n⌋₊)
      omega

/-- What is left of two rankings that are cut off and filtered is equally much, as far as a slice looks,
exactly when they are cut off alike. -/
lemma sliceLength_countP_eq_iff {α ι : Type*} [LinearOrder ι] [DecidableEq α] {f : α → ι}
    {p q : α → Bool} {xs ys : List α} {c d : ℕ} {n : ℚ} (hx : xs.Nodup) (hy : ys.Nodup)
    (h : xs.filter q = ys.filter q) :
    Js.sliceLength n (((rank f (xs.filter p)).take c).countP q) =
        Js.sliceLength n (((rank f (ys.filter p)).take d).countP q) ↔
      CutAlike f p q xs ys c d n := by
  have hkept : (xs.filter fun a => q a && p a) = ys.filter fun a => q a && p a := by
    simp only [Bool.and_comm (q _), ← List.filter_filter, h]
  have hle : ∀ {zs : List α} {e : ℕ}, ((rank f (zs.filter p)).take e).countP q ≤
      (rank f (zs.filter fun a => q a && p a)).length := by
    intro zs e
    refine ((List.take_sublist ..).countP_le).trans_eq ?_
    rw [(rank_perm f _).countP_eq, length_rank, ← List.countP_eq_length_filter, List.countP_filter]
  rw [sliceLength_eq_iff hle (hkept ▸ hle)]
  constructor
  · intro hcut a ha hq hp hcounts
    have hmem : a ∈ rank f (xs.filter fun a => q a && p a) :=
      mem_rank.mpr (List.mem_filter.mpr ⟨ha, Bool.and_eq_true_iff.mpr ⟨hq, hp⟩⟩)
    obtain ⟨k, hk, rfl⟩ := List.getElem_of_mem hmem
    rw [ahead_getElem_rank hx hk] at hcounts
    have hboth := hcut k hk hcounts
    rw [lt_countP_take_iff hx hk] at hboth
    rw [hboth, lt_countP_take_iff hy (hkept ▸ hk)]
    simp only [hkept]
  · intro hcut k hk hcounts
    obtain ⟨ha, hqp⟩ := List.mem_filter.mp (mem_rank.mp (List.getElem_mem hk))
    obtain ⟨hq, hp⟩ := Bool.and_eq_true_iff.mp hqp
    have hboth := hcut _ ha hq hp (by rwa [ahead_getElem_rank hx hk])
    rw [lt_countP_take_iff hx hk, hboth, lt_countP_take_iff hy (hkept ▸ hk)]
    simp only [hkept]

lemma filter_rank_filter_congr {α ι : Type*} [LinearOrder ι] {f : α → ι} {p q : α → Bool}
    {xs ys : List α} (h : xs.filter p = ys.filter p) :
    (rank f (xs.filter q)).filter p = (rank f (ys.filter q)).filter p := by
  rw [← rank_filter, ← rank_filter, List.filter_comm, h, List.filter_comm]

lemma queryEpisodicMemories_eq_iff (h : SamePast getTime (Js.orElse cutoffTimestamp now) s t) :
    queryEpisodicMemories getTime s failureType cutoffTimestamp limit now =
        queryEpisodicMemories getTime t failureType cutoffTimestamp limit now ↔
      EpisodesCutAlike getTime s t failureType (Js.orElse cutoffTimestamp now) limit := by
  rw [EpisodesCutAlike, ← sliceLength_countP_eq_iff s.nodup_memories.of_map t.nodup_memories.of_map h.1]
  apply sliceTo_filter_eq_iff (filter_rank_filter_congr (f := AgentMemoryItem.createdAt) h.1)
  · exact List.take_prefix ..
  · exact List.take_prefix ..

lemma querySemanticMemories_eq (h : SamePast getTime (Js.orElse cutoffTimestamp now) s t) :
    querySemanticMemories getTime s keyPrefix cutoffTimestamp limit now =
      querySemanticMemories getTime t keyPrefix cutoffTimestamp limit now :=
  congrArg (Js.sliceTo _) (filter_rank_filter_congr h.1)

lemma filter_similarDocuments_congr {minSimilarity : ℚ} (h : SamePast getTime cutoff s t) :
    (similarDocuments similarity s.documents query minSimilarity).filter
        (fun memory => isVisible getTime cutoff memory.item) =
      (similarDocuments similarity t.documents query minSimilarity).filter
        fun memory => isVisible getTime cutoff memory.item := by
  have hvisible : ∀ documents : List VectorDocument,
      (similarDocuments similarity documents query minSimilarity).filter
          (fun memory => isVisible getTime cutoff memory.item) =
        similarDocuments similarity
          (documents.filter fun doc => isVisible getTime cutoff doc.metadata) query
          minSimilarity := by
    intro documents
    rw [similarDocuments, similarDocuments, ← rank_filter, List.filter_map, List.filter_comm]
    rfl
  rw [hvisible, hvisible, h.2]

lemma similarDocuments_eq (similarity : String → String → ℚ) (documents : List VectorDocument)
    (query : String) (minSimilarity : Option ℚ) :
    similarDocuments similarity documents query (minSimilarity.getD (1 / 10)) =
      (rank (fun doc => Js.roundFixed (similarity query doc.text) 4)
        (documents.filter (isMatch similarity query minSimilarity))).map fun doc =>
          ⟨doc.metadata, Js.roundFixed (similarity query doc.text) 4⟩ := by
  rw [similarDocuments, rank_map]
  rfl

lemma countP_searchSimilar (n : ℚ) (documents : List VectorDocument) :
    (searchSimilar similarity documents query n (minSimilarity.getD (1 / 10))).countP
        (fun memory => isVisible getTime cutoff memory.item) =
      ((rank (fun doc => Js.roundFixed (similarity query doc.text) 4)
        (documents.filter (isMatch similarity query minSimilarity))).take
          (Js.sliceLength n (documents.countP (isMatch similarity query minSimilarity)))).countP
            fun doc => isVisible getTime cutoff doc.metadata := by
  rw [searchSimilar, Js.sliceTo, similarDocuments_eq, List.length_map, length_rank,
    ← List.countP_eq_length_filter, ← List.map_take, List.countP_map]
  rfl

lemma searchSimilarMemories_eq_iff (h : SamePast getTime (Js.orElse cutoffTimestamp now) s t) :
    searchSimilarMemories getTime similarity s query cutoffTimestamp topK minSimilarity now =
        searchSimilarMemories getTime similarity t query cutoffTimestamp topK minSimilarity now ↔
      MatchesCutAlike getTime similarity s t query (Js.orElse cutoffTimestamp now) topK
        minSimilarity := by
  rw [MatchesCutAlike, ← sliceLength_countP_eq_iff s.nodup_documents.of_map t.nodup_documents.of_map
    h.2, ← countP_searchSimilar, ← countP_searchSimilar]
  exact sliceTo_filter_eq_iff (filter_similarDocuments_congr h) (Js.prefix_sliceTo ..)
    (Js.prefix_sliceTo ..)

/-- Where the order of the texts of the times agrees with that of the times, no episode from after
the cutoff is selected, and so none takes the place of another. -/
lemma episodesCutAlike_of_ordered (h : SamePast getTime cutoff s t) (hcutoff : cutoff ≠ "")
    (hordered : ∀ memory ∈ s.memories ++ t.memories, memory.createdAt ≤ cutoff →
      isVisible getTime cutoff memory) :
    EpisodesCutAlike getTime s t failureType cutoff limit := by
  have hselect : ∀ memories : List AgentMemoryItem,
      (∀ memory ∈ memories, memory.createdAt ≤ cutoff → isVisible getTime cutoff memory) →
        memories.filter (isEpisode failureType cutoff) =
          (memories.filter (isVisible getTime cutoff)).filter (isEpisode failureType cutoff) := by
    intro memories hmemories
    rw [List.filter_filter]
    refine List.filter_congr fun memory hmemory => ?_
    by_cases hepisode : isEpisode failureType cutoff memory
    · have hle : memory.createdAt ≤ cutoff := by
        simp only [isEpisode, createdBy, hcutoff, decide_false, Bool.false_or, Bool.and_eq_true,
          decide_eq_true_eq] at hepisode
        exact hepisode.2
      simp [hepisode, hmemories memory hmemory hle]
    · simp [hepisode]
  obtain ⟨hs, ht⟩ := List.forall_mem_append.mp hordered
  rw [EpisodesCutAlike, ← sliceLength_countP_eq_iff s.nodup_memories.of_map t.nodup_memories.of_map
    h.1, hselect _ hs, hselect _ ht, h.1]

end Queries

/-! ### The past is all that counts -/

/-- Nothing that a query returns is from after the cutoff, and two stores with the same past give
the same results exactly when no memory of the past that counts for them is cut off in one of the two
stores only. -/
theorem memories_unchanged_iff (getTime : String → Option ℤ) (similarity : String → String → ℚ)
    (s t : MemoryStore) (failureType keyPrefix cutoffTimestamp : Option String)
    (query now : String) (limit topK minSimilarity : Option ℚ)
    (h : SamePast getTime (Js.orElse cutoffTimestamp now) s t) :
    ((queryEpisodicMemories getTime s failureType cutoffTimestamp limit now =
            queryEpisodicMemories getTime t failureType cutoffTimestamp limit now ∧
          querySemanticMemories getTime s keyPrefix cutoffTimestamp limit now =
            querySemanticMemories getTime t keyPrefix cutoffTimestamp limit now ∧
          searchSimilarMemories getTime similarity s query cutoffTimestamp topK minSimilarity now =
            searchSimilarMemories getTime similarity t query cutoffTimestamp topK minSimilarity
              now) ↔
        EpisodesCutAlike getTime s t failureType (Js.orElse cutoffTimestamp now) limit ∧
          MatchesCutAlike getTime similarity s t query (Js.orElse cutoffTimestamp now) topK
            minSimilarity) ∧
      ∀ memory ∈ queryEpisodicMemories getTime s failureType cutoffTimestamp limit now ++
          querySemanticMemories getTime s keyPrefix cutoffTimestamp limit now ++
          (searchSimilarMemories getTime similarity s query cutoffTimestamp topK minSimilarity
            now).map SimilarMemory.item,
        isVisible getTime (Js.orElse cutoffTimestamp now) memory := by
  refine ⟨?_, fun memory hmemory => ?_⟩
  · rw [queryEpisodicMemories_eq_iff h, searchSimilarMemories_eq_iff h,
      and_iff_right (querySemanticMemories_eq h)]
  · rw [List.mem_append, List.mem_append, List.mem_map] at hmemory
    obtain (hmemory | hmemory) | ⟨found, hfound, rfl⟩ := hmemory
    · exact (List.mem_filter.mp ((Js.prefix_sliceTo ..).subset hmemory)).2
    · exact (List.mem_filter.mp ((Js.prefix_sliceTo ..).subset hmemory)).2
    · exact (List.mem_filter.mp ((Js.prefix_sliceTo ..).subset hfound)).2

/-! ### A crowded search -/

/-- The times of the memories below. -/
def sampleTime (text : String) : Option ℤ :=
  if text = "2026-01-01T00:00:00.000Z" then some 1767225600000
  else if text = "2026-01-02T00:00:00.000Z" then some 1767312000000
  else if text = "2026-01-03T00:00:00.000Z" then some 1767398400000
  else none

/-- The similarity of a text to the query of one word, `declined`: the text is that word, or that
word twice. -/
def sampleSimilarity (_query text : String) : ℚ :=
  if Js.trim text = "declined" then 1 else 4 / 5

/-- An episode of these texts, as `recordEpisode` puts it into both stores. -/
def sampleEpisode (id failureType createdAt : String) : VectorDocument where
  id := id
  text := failureType ++ " declined "
  metadata :=
    { id := id, memoryType := .episodic, runId := some "run_1", failureType := some failureType
      contextSummary := "declined", actionTaken := some "", semanticKey := none
      semanticValue := none, createdAt := createdAt }

def storeOf (documents : List VectorDocument)
    (hmemories : ((documents.map VectorDocument.metadata).map (·.id)).Nodup)
    (hdocuments : (documents.map (·.id)).Nodup) : MemoryStore :=
  ⟨documents.map VectorDocument.metadata, documents, hmemories, hdocuments⟩

/-- One memory of the past. -/
def pastStore : MemoryStore :=
  storeOf [sampleEpisode "mem_e_1" "declined" "2026-01-01T00:00:00.000Z"] (by decide) (by decide)

/-- The same memory and two of the future, which match better. -/
def crowdedStore : MemoryStore :=
  storeOf
    [sampleEpisode "mem_e_1" "declined" "2026-01-01T00:00:00.000Z",
      sampleEpisode "mem_e_2" "" "2026-01-03T00:00:00.000Z",
      sampleEpisode "mem_e_3" "" "2026-01-03T00:00:00.000Z"]
    (by decide) (by decide)

/-- A search for one memory finds the one of the past, and nothing once there are two of the future:
the search is cut off at two matches before the future is taken out. -/
theorem future_crowds_out_past :
    SamePast sampleTime "2026-01-02T00:00:00.000Z" pastStore crowdedStore ∧
      (searchSimilarMemories sampleTime sampleSimilarity pastStore "declined"
        (some "2026-01-02T00:00:00.000Z") (some 1) none "").map (·.item.id) = ["mem_e_1"] ∧
      searchSimilarMemories sampleTime sampleSimilarity crowdedStore "declined"
        (some "2026-01-02T00:00:00.000Z") (some 1) none "" = [] :=
  ⟨⟨by decide +kernel, by decide +kernel⟩, by decide +kernel, by decide +kernel⟩

/-- A search for two memories is cut off at four matches and is the same in both stores. -/
theorem search_for_two_unchanged :
    searchSimilarMemories sampleTime sampleSimilarity pastStore "declined"
        (some "2026-01-02T00:00:00.000Z") (some 2) none "" =
      searchSimilarMemories sampleTime sampleSimilarity crowdedStore "declined"
        (some "2026-01-02T00:00:00.000Z") (some 2) none "" :=
  ((memories_unchanged_iff sampleTime sampleSimilarity pastStore crowdedStore none none
    (some "2026-01-02T00:00:00.000Z") "declined" "" none (some 2) none
    ⟨by decide +kernel, by decide +kernel⟩).1.mpr ⟨by decide +kernel, by decide +kernel⟩).2.2

end AgentMemoryStore

end CtrlRecovery
