import ReviewPanel.Config.Basic
import ReviewPanel.Proofs.Lowercase
import ReviewPanel.Proofs.Search
import ReviewPanel.Proofs.Table

/-!
# Keywords — tables only grow

A table of keywords starts out empty or with the built-in words, and changes in
two ways: some words are added to a technology, or all words of another table
are. Whatever is added is brought into lowercase first, and since lowercasing
twice is lowercasing once, a table that was made in this way is *tidy*: different
spellings of a technology share one entry, and a word is there once.

Adding words never moves or removes a word. So what a table matches is what it
matched at the start and what was added to it, and a merge of two tables matches
what either of them matches.

* `isRelevant_iff`       — what a table matches, said without its search.
* `concerns_extend_iff`  — what it matches when words are added.
* `Grown.isTidy`         — tables are tidy.
* `Grown.concerns_iff`   — what was added decides what is matched.
* `IsTidy.merge_self`    — a table that is merged into itself stays as it is.
* `tables_only_grow`     — all of this, and what it means for configurations.
-/

namespace ReviewPanel.KeywordTable

open Text

variable {k other start start' : KeywordTable} {technology word agent message : String}
  {words added : List String} {entries : List (String × List String)}
  {given given' : List (String × String)}

/-! ## What a table matches -/

/-- The name of the agent holds a technology of the table, and the message a word
of the technology, both read in lowercase. -/
def Concerns (k : KeywordTable) (agent message : String) : Prop :=
  ∃ technology words, k.words.get? technology = some words ∧
    technology.toList <:+: (lowercase agent).toList ∧
    ∃ word ∈ words, word.toList <:+: (lowercase message).toList

/-- A technology is in the name of the agent and a word in the message, whatever
the case of their letters. -/
def Connects (technology word agent message : String) : Prop :=
  (lowercase technology).toList <:+: (lowercase agent).toList ∧
    (lowercase word).toList <:+: (lowercase message).toList

/-- The words of a technology, none where the table does not have it. -/
def wordsOf (k : KeywordTable) (technology : String) : List String :=
  (k.words.get? technology).getD []

/-- The words of a technology that is no key of the table are none. -/
theorem mem_wordsOf_iff :
    word ∈ k.wordsOf technology ↔ ∃ words, k.words.get? technology = some words ∧ word ∈ words := by
  unfold wordsOf
  cases k.words.get? technology <;> simp

theorem concerns_iff :
    k.Concerns agent message ↔ ∃ technology word, word ∈ k.wordsOf technology ∧
      technology.toList <:+: (lowercase agent).toList ∧
      word.toList <:+: (lowercase message).toList := by
  simp only [mem_wordsOf_iff]
  constructor
  · rintro ⟨technology, words, hFound, hAgent, word, hWord, hMessage⟩
    exact ⟨technology, word, ⟨words, hFound, hWord⟩, hAgent, hMessage⟩
  · rintro ⟨technology, word, ⟨words, hFound, hWord⟩, hAgent, hMessage⟩
    exact ⟨technology, words, hFound, hAgent, word, hWord, hMessage⟩

/-- A message mentions a technology if it has one of its words, in lower case. -/
theorem mentions_iff :
    k.mentions technology message = true ↔
      ∃ word ∈ k.wordsOf technology, word.toList <:+: (lowercase message).toList := by
  rw [mentions, List.any_eq_true]
  simp only [contains_iff]
  rfl

/-- An agent is relevant for a message iff the table connects them. -/
theorem isRelevant_iff : k.isRelevant agent message = true ↔ k.Concerns agent message := by
  rw [isRelevant, List.any_eq_true, concerns_iff]
  simp only [technologiesOf, List.mem_filter, contains_iff, mentions_iff]
  constructor
  · rintro ⟨technology, ⟨-, hAgent⟩, word, hWord, hMessage⟩
    exact ⟨technology, word, hWord, hAgent, hMessage⟩
  · rintro ⟨technology, word, hWord, hAgent, hMessage⟩
    -- a technology that has words is a key of the table
    obtain ⟨words, hFound, -⟩ := mem_wordsOf_iff.mp hWord
    obtain ⟨before, after, hSplit, -⟩ := List.lookup_eq_some_iff.mp hFound
    have hKey : technology ∈ k.words.keys := by
      rw [Table.keys, hSplit, List.map_append, List.map_cons]
      exact List.mem_append_right _ List.mem_cons_self
    exact ⟨technology, ⟨hKey, hAgent⟩, word, hWord, hMessage⟩

instance : Decidable (k.Concerns agent message) := decidable_of_iff _ isRelevant_iff

/-! ## Adding words to a list -/

/-- Words in lowercase, none of them empty and none there twice. -/
structure AreTidy (words : List String) : Prop where
  lower    : ∀ word ∈ words, lowercase word = word
  nonempty : "" ∉ words
  distinct : words.Nodup

instance (words : List String) : Decidable (AreTidy words) :=
  decidable_of_iff ((∀ word ∈ words, lowercase word = word) ∧ "" ∉ words ∧ words.Nodup)
    ⟨fun ⟨hLower, hSome, hDistinct⟩ => ⟨hLower, hSome, hDistinct⟩,
      fun hTidy => ⟨hTidy.lower, hTidy.nonempty, hTidy.distinct⟩⟩

theorem areTidy_nil : AreTidy [] := ⟨by simp, by simp, .nil⟩

/-- A word is added in lower case, once, and not if it is empty. -/
theorem AreTidy.addWord (hTidy : AreTidy words) (word : String) :
    AreTidy (addWord words word) := by
  rw [KeywordTable.addWord]
  split
  · exact hTidy
  · rename_i hNew
    obtain ⟨hSome, hFresh⟩ := not_or.mp hNew
    refine ⟨?_, ?_, ?_⟩
    · intro w hw
      rcases List.mem_append.mp hw with hOld | hLast
      · exact hTidy.lower w hOld
      · -- the word was brought into lowercase before it was added
        rw [List.mem_singleton.mp hLast, lowercase_lowercase]
    · rw [List.mem_append, List.mem_singleton, not_or]
      exact ⟨hTidy.nonempty, fun hEmpty => hSome hEmpty.symm⟩
    · rw [List.nodup_append]
      refine ⟨hTidy.distinct, List.nodup_singleton _, ?_⟩
      intro w hw v hv hEq
      rw [List.mem_singleton.mp hv] at hEq
      exact hFresh (hEq ▸ hw)

theorem AreTidy.addWords (hTidy : AreTidy words) (added : List String) :
    AreTidy (added.foldl KeywordTable.addWord words) := by
  induction added generalizing words with
  | nil => exact hTidy
  | cons word rest ih => exact ih (hTidy.addWord word)

/-- A word is there afterwards iff it was there or is the lowercase of what was
added, unless that was empty. -/
theorem mem_addWord_iff {w : String} :
    w ∈ addWord words word ↔ w ∈ words ∨ word ≠ "" ∧ lowercase word = w := by
  rw [addWord]
  split
  · -- a word that is not added is empty, or there already
    rename_i hKnown
    rw [lowercase_eq_empty_iff] at hKnown
    constructor
    · exact Or.inl
    · rintro (hOld | ⟨hSome, rfl⟩)
      · exact hOld
      · exact hKnown.resolve_left hSome
  · rename_i hNew
    rw [lowercase_eq_empty_iff, not_or] at hNew
    rw [List.mem_append, List.mem_singleton, eq_comm]
    simp only [ne_eq, hNew.1, not_false_eq_true, true_and]

/-- Adding words loses none, and adds those that are not empty, in lower case. -/
theorem mem_addWords_iff {w : String} :
    w ∈ added.foldl addWord words ↔
      w ∈ words ∨ ∃ word ∈ added, word ≠ "" ∧ lowercase word = w := by
  induction added generalizing words with
  | nil => simp
  | cons word rest ih =>
    rw [List.foldl_cons, ih, mem_addWord_iff, List.exists_mem_cons_iff, or_assoc]

/-- Words are added behind those that are there. -/
theorem prefix_addWords : words <+: added.foldl addWord words := by
  induction added generalizing words with
  | nil => exact List.prefix_rfl
  | cons word rest ih =>
    refine List.IsPrefix.trans ?_ ih
    rw [addWord]
    split
    · exact List.prefix_rfl
    · exact List.prefix_append _ _

/-- Words that are there already change nothing. -/
theorem addWords_eq_self (hTidy : AreTidy words) (hThere : ∀ word ∈ added, word ∈ words) :
    added.foldl addWord words = words := by
  induction added with
  | nil => rfl
  | cons word rest ih =>
    have hWord := hThere word List.mem_cons_self
    have hStep : addWord words word = words := by
      rw [addWord, hTidy.lower word hWord]
      exact if_pos (Or.inr hWord)
    rw [List.foldl_cons, hStep, ih fun w hw => hThere w (List.mem_cons_of_mem _ hw)]

/-! ## Adding words to a table -/

/-- One extension changes the words of its technology and no others. -/
theorem get?_extend {t : String} :
    (k.extend technology added).words.get? t =
      if t = lowercase technology then some (added.foldl addWord (k.wordsOf t))
      else k.words.get? t := by
  unfold extend wordsOf
  simp only
  rw [Table.get?_insert]
  split
  · rename_i hHere
    rw [hHere]
  · rfl

/-- The words of a technology afterwards are those that it had, and what was added
to it, under whichever spelling. -/
theorem mem_wordsOf_extend_iff {t w : String} :
    w ∈ (k.extend technology added).wordsOf t ↔
      w ∈ k.wordsOf t ∨
        t = lowercase technology ∧ ∃ word ∈ added, word ≠ "" ∧ lowercase word = w := by
  rw [wordsOf, get?_extend]
  split
  · rename_i hHere
    rw [Option.getD_some, mem_addWords_iff]
    simp only [hHere, true_and]
  · rename_i hElsewhere
    simp only [hElsewhere, false_and, or_false]
    rfl

/-- A table matches more by what is added to it. -/
theorem concerns_extend_iff :
    (k.extend technology added).Concerns agent message ↔
      k.Concerns agent message ∨
        ∃ word ∈ added, word ≠ "" ∧ Connects technology word agent message := by
  rw [concerns_iff, concerns_iff]
  constructor
  · rintro ⟨t, w, hWord, hAgent, hMessage⟩
    rcases mem_wordsOf_extend_iff.mp hWord with hOld | ⟨rfl, word, hAdded, hSome, rfl⟩
    · exact Or.inl ⟨t, w, hOld, hAgent, hMessage⟩
    · exact Or.inr ⟨word, hAdded, hSome, hAgent, hMessage⟩
  · rintro (⟨t, w, hOld, hAgent, hMessage⟩ | ⟨word, hAdded, hSome, hAgent, hMessage⟩)
    · exact ⟨t, w, mem_wordsOf_extend_iff.mpr (Or.inl hOld), hAgent, hMessage⟩
    · -- what was added stands there in lowercase, under the lowercase of its technology
      refine ⟨lowercase technology, lowercase word, ?_, hAgent, hMessage⟩
      exact mem_wordsOf_extend_iff.mpr (Or.inr ⟨rfl, word, hAdded, hSome, rfl⟩)

/-- Every word stays where it is among the words of its technology. -/
def IsKeptBy (k k' : KeywordTable) : Prop :=
  ∀ technology words, k.words.get? technology = some words →
    ∃ words', k'.words.get? technology = some words' ∧ words <+: words'

theorem IsKeptBy.refl (k : KeywordTable) : k.IsKeptBy k :=
  fun _ words hFound => ⟨words, hFound, List.prefix_rfl⟩

theorem IsKeptBy.trans (hFirst : start.IsKeptBy k) (hNext : k.IsKeptBy other) :
    start.IsKeptBy other := by
  intro technology words hFound
  obtain ⟨words', hFound', hPrefix⟩ := hFirst technology words hFound
  obtain ⟨words'', hFound'', hPrefix'⟩ := hNext technology words' hFound'
  exact ⟨words'', hFound'', hPrefix.trans hPrefix'⟩

/-- An extension keeps what is there, in its place. -/
theorem isKeptBy_extend (k : KeywordTable) (technology : String) (added : List String) :
    k.IsKeptBy (k.extend technology added) := by
  intro t words hFound
  by_cases hHere : t = lowercase technology
  · refine ⟨added.foldl addWord words, ?_, prefix_addWords⟩
    rw [get?_extend, if_pos hHere, wordsOf, hFound, Option.getD_some]
  · exact ⟨words, by rw [get?_extend, if_neg hHere, hFound], List.prefix_rfl⟩

/-! ## Tidy tables -/

/-- A table whose technologies are distinct and in lowercase, with tidy words. -/
structure IsTidy (k : KeywordTable) : Prop where
  technologies : ∀ e ∈ k.words.entries, lowercase e.1 = e.1
  distinct     : Table.Ascending k.words.entries
  words        : ∀ e ∈ k.words.entries, AreTidy e.2

theorem isTidy_empty : empty.IsTidy :=
  ⟨fun _ he => absurd he List.not_mem_nil, .nil, fun _ he => absurd he List.not_mem_nil⟩

/-- The built-in table is tidy. -/
theorem isTidy_builtin : builtin.IsTidy := by
  refine ⟨?_, Table.ascending_ofList, ?_⟩
  · decide +kernel
  · decide +kernel

/-- Extensions keep a table tidy. -/
theorem IsTidy.extend (hTidy : k.IsTidy) (technology : String) (added : List String) :
    (k.extend technology added).IsTidy := by
  -- the words that the new ones join are tidy, also where there are none
  have hOld : AreTidy (k.wordsOf (lowercase technology)) := by
    unfold wordsOf
    cases hFound : k.words.get? (lowercase technology) with
    | none => exact areTidy_nil
    | some words => exact hTidy.words _ ((Table.mem_entries_iff hTidy.distinct).mpr hFound)
  refine ⟨?_, Table.ascending_place hTidy.distinct, ?_⟩
  · intro e he
    rcases Table.mem_place he with rfl | hBefore
    · exact lowercase_lowercase technology
    · exact hTidy.technologies e hBefore
  · intro e he
    rcases Table.mem_place he with rfl | hBefore
    · exact hOld.addWords added
    · exact hTidy.words e hBefore

/-- What a tidy table has is there already, so adding it changes nothing. -/
theorem IsTidy.extend_eq_self (hTidy : k.IsTidy) {e : String × List String}
    (hThere : e ∈ k.words.entries) : k.extend e.1 e.2 = k := by
  have hFound : k.words.get? e.1 = some e.2 := (Table.mem_entries_iff hTidy.distinct).mp hThere
  rw [KeywordTable.extend, hTidy.technologies e hThere, hFound, Option.getD_some,
    addWords_eq_self (hTidy.words e hThere) fun _ hWord => hWord,
    Table.insert_eq_self hTidy.distinct hFound]

/-- In a tidy table the entries can be read in any case. -/
theorem IsTidy.concerns_iff (hTidy : k.IsTidy) :
    k.Concerns agent message ↔
      ∃ e ∈ k.words.entries, ∃ word ∈ e.2, word ≠ "" ∧ Connects e.1 word agent message := by
  constructor
  · -- in one direction nothing is empty, and in both everything is its own lowercase
    rintro ⟨t, words, hFound, hAgent, word, hWord, hMessage⟩
    have hThere := (Table.mem_entries_iff hTidy.distinct).mpr hFound
    refine ⟨_, hThere, word, hWord, ?_, ?_, ?_⟩
    · rintro rfl
      exact (hTidy.words _ hThere).nonempty hWord
    · rwa [hTidy.technologies _ hThere]
    · rwa [(hTidy.words _ hThere).lower word hWord]
  · rintro ⟨e, hThere, word, hWord, -, hAgent, hMessage⟩
    rw [hTidy.technologies e hThere] at hAgent
    rw [(hTidy.words e hThere).lower word hWord] at hMessage
    exact ⟨e.1, e.2, (Table.mem_entries_iff hTidy.distinct).mp hThere, hAgent, word, hWord,
      hMessage⟩

/-! ## Adding entries one after the other -/

/-- Adds the words of entries to their technologies, one entry after the other. -/
def extendAll (k : KeywordTable) (entries : List (String × List String)) : KeywordTable :=
  entries.foldl (fun t e => t.extend e.1 e.2) k

/-- Merging is extending by the entries of the other table. -/
theorem merge_eq : k.merge other = k.extendAll other.words.entries := rfl

/-- What a table finds after extensions is what it found before, or is found by a word that
they brought. -/
theorem concerns_extendAll_iff :
    (k.extendAll entries).Concerns agent message ↔
      k.Concerns agent message ∨
        ∃ e ∈ entries, ∃ word ∈ e.2, word ≠ "" ∧ Connects e.1 word agent message := by
  induction entries generalizing k with
  | nil => simp [extendAll]
  | cons e rest ih =>
    have hStep : k.extendAll (e :: rest) = (k.extend e.1 e.2).extendAll rest := rfl
    rw [hStep, ih, concerns_extend_iff, List.exists_mem_cons_iff, or_assoc]

theorem isKeptBy_extendAll (k : KeywordTable) (entries : List (String × List String)) :
    k.IsKeptBy (k.extendAll entries) := by
  induction entries generalizing k with
  | nil => exact .refl k
  | cons e rest ih => exact (isKeptBy_extend k e.1 e.2).trans (ih _)

theorem IsTidy.extendAll (hTidy : k.IsTidy) (entries : List (String × List String)) :
    (k.extendAll entries).IsTidy := by
  induction entries generalizing k with
  | nil => exact hTidy
  | cons e rest ih => exact ih (hTidy.extend e.1 e.2)

/-- Nothing new changes nothing, if the table is tidy. -/
theorem IsTidy.extendAll_eq_self (hTidy : k.IsTidy)
    (hThere : ∀ e ∈ entries, e ∈ k.words.entries) : k.extendAll entries = k := by
  induction entries with
  | nil => rfl
  | cons e rest ih =>
    have hStep : k.extendAll (e :: rest) = (k.extend e.1 e.2).extendAll rest := rfl
    rw [hStep, hTidy.extend_eq_self (hThere e List.mem_cons_self),
      ih fun e' he' => hThere e' (List.mem_cons_of_mem _ he')]

/-- A tidy table that is merged into itself stays as it is. -/
theorem IsTidy.merge_self (hTidy : k.IsTidy) : k.merge k = k :=
  hTidy.extendAll_eq_self fun _ he => he

/-- A merge matches what either table matches. -/
theorem IsTidy.concerns_merge_iff (hOther : other.IsTidy) :
    (k.merge other).Concerns agent message ↔
      k.Concerns agent message ∨ other.Concerns agent message := by
  rw [merge_eq, concerns_extendAll_iff, hOther.concerns_iff]

/-! ## Histories -/

/-- The technologies of entries, each with one of its words. -/
def pairs (entries : List (String × List String)) : List (String × String) :=
  entries.flatMap fun e => e.2.map fun word => (e.1, word)

theorem mem_pairs_iff {p : String × String} :
    p ∈ pairs entries ↔ ∃ e ∈ entries, p.1 = e.1 ∧ p.2 ∈ e.2 := by
  obtain ⟨technology, word⟩ := p
  simp only [pairs, List.mem_flatMap, List.mem_map, Prod.mk.injEq]
  constructor
  · rintro ⟨e, he, w, hw, rfl, rfl⟩
    exact ⟨e, he, rfl, hw⟩
  · rintro ⟨e, he, rfl, hw⟩
    exact ⟨e, he, word, hw, rfl, rfl⟩

/-- The tables that start out empty or with the built-in words, with what has
been added to each since, technology by technology and word by word. Tables that
are merged into others have come about in the same way. -/
inductive Grown : KeywordTable → List (String × String) → KeywordTable → Prop
  | empty : Grown .empty [] .empty
  | builtin : Grown .builtin [] .builtin
  | extend {start k : KeywordTable} {given : List (String × String)} (technology : String)
      (added : List String) (hBefore : Grown start given k) :
      Grown start (given ++ added.map fun word => (technology, word)) (k.extend technology added)
  | merge {start start' k other : KeywordTable} {given given' : List (String × String)}
      (hBefore : Grown start given k) (hOther : Grown start' given' other) :
      Grown start (given ++ pairs other.words.entries) (k.merge other)

/-- Entries count as the pairs they bring. -/
theorem Grown.extendAll (hGrown : Grown start given k) (entries : List (String × List String)) :
    Grown start (given ++ pairs entries) (k.extendAll entries) := by
  induction entries generalizing given k with
  | nil =>
    rw [pairs, List.flatMap_nil, List.append_nil]
    exact hGrown
  | cons e rest ih =>
    have hRest := ih (hGrown.extend e.1 e.2)
    rw [List.append_assoc] at hRest
    exact hRest

/-- A table that has grown from a tidy one is tidy. -/
theorem Grown.isTidy (hGrown : Grown start given k) : k.IsTidy := by
  -- on the history: what is merged in need not be tidy for the table to stay so
  induction hGrown with
  | empty => exact isTidy_empty
  | builtin => exact isTidy_builtin
  | extend technology added _ ih => exact ih.extend technology added
  | merge _ _ ih _ => exact ih.extendAll _

/-- A table that has grown keeps what was there. -/
theorem Grown.keeps (hGrown : Grown start given k) : start.IsKeptBy k := by
  induction hGrown with
  | empty => exact .refl _
  | builtin => exact .refl _
  | extend technology added _ ih => exact ih.trans (isKeptBy_extend _ technology added)
  | merge _ _ ih _ => exact ih.trans (isKeptBy_extendAll _ _)

/-- Something that was added connects an agent and a message. -/
def AnyConnects (given : List (String × String)) (agent message : String) : Prop :=
  ∃ p ∈ given, p.2 ≠ "" ∧ Connects p.1 p.2 agent message

/-- Pairs connect if the earlier or the later ones do. -/
theorem anyConnects_append :
    AnyConnects (given ++ given') agent message ↔
      AnyConnects given agent message ∨ AnyConnects given' agent message := by
  simp only [AnyConnects, List.mem_append, or_and_right, exists_or]

theorem anyConnects_pairs_iff :
    AnyConnects (pairs entries) agent message ↔
      ∃ e ∈ entries, ∃ word ∈ e.2, word ≠ "" ∧ Connects e.1 word agent message := by
  simp only [AnyConnects, mem_pairs_iff]
  constructor
  · rintro ⟨⟨t, word⟩, ⟨e, he, rfl, hWord⟩, hConnects⟩
    exact ⟨e, he, word, hWord, hConnects⟩
  · rintro ⟨e, he, word, hWord, hConnects⟩
    exact ⟨(e.1, word), ⟨e, he, rfl, hWord⟩, hConnects⟩

/-- A table matches what it matched at the start and what was added since. -/
theorem Grown.concerns_iff (hGrown : Grown start given k) :
    k.Concerns agent message ↔
      start.Concerns agent message ∨ AnyConnects given agent message := by
  induction hGrown with
  | empty => simp [AnyConnects]
  | builtin => simp [AnyConnects]
  | extend technology added _ ih =>
    rw [concerns_extend_iff, ih, anyConnects_append, or_assoc]
    simp [AnyConnects]
  | merge _ _ ih _ =>
    -- a merge adds the entries of the other table, however that came about
    rw [merge_eq, concerns_extendAll_iff, ih, anyConnects_append, anyConnects_pairs_iff, or_assoc]

/--
**Tables of keywords only grow.** Start with no words or with the built-in ones,
add words to technologies and merge in tables that came about in the same way, in
any order. The table is tidy: its technologies are distinct, and they and all
words are in lowercase; no word is empty, or there twice under one technology.
Whatever is added next, every word stays where it is. An agent and a message
match iff they did at the start or something non-empty that was added connects
them, whatever the case of letters. A merge matches what either of the two tables
matches, and a table that is merged into itself stays as it is. The keywords of a
configuration are one such table, and what the built-in words match they match.
-/
theorem tables_only_grow (hGrown : Grown start given k) :
    k.IsTidy ∧
      (start.IsKeptBy k ∧ (∀ technology added, k.IsKeptBy (k.extend technology added)) ∧
        ∀ other, k.IsKeptBy (k.merge other)) ∧
      (∀ agent message, k.isRelevant agent message = true ↔
        start.isRelevant agent message = true ∨
          ∃ p ∈ given, p.2 ≠ "" ∧ Connects p.1 p.2 agent message) ∧
      (∀ start' given' other, Grown start' given' other → ∀ agent message,
        (k.merge other).isRelevant agent message =
          (k.isRelevant agent message || other.isRelevant agent message)) ∧
      k.merge k = k ∧
      ∀ c : ChatConfig, Grown .builtin (pairs c.keywords.entries) c.keywordTable ∧
        ∀ agent message, builtin.isRelevant agent message = true →
          c.keywordTable.isRelevant agent message = true := by
  refine ⟨hGrown.isTidy, ⟨hGrown.keeps, isKeptBy_extend k, fun other => isKeptBy_extendAll k _⟩,
    ?_, ?_, hGrown.isTidy.merge_self, ?_⟩
  · intro agent message
    rw [isRelevant_iff, isRelevant_iff]
    exact hGrown.concerns_iff
  · -- the other table is tidy, and what it finds is told by its pairs
    intro start' given' other hOther agent message
    rw [Bool.eq_iff_iff, Bool.or_eq_true, isRelevant_iff, isRelevant_iff, isRelevant_iff]
    exact hOther.isTidy.concerns_merge_iff
  · -- a configuration extends the built-in table by its own entries
    intro c
    have hConfig : Grown .builtin (pairs c.keywords.entries) c.keywordTable :=
      Grown.builtin.extendAll c.keywords.entries
    refine ⟨hConfig, fun agent message hBuiltin => ?_⟩
    rw [isRelevant_iff] at hBuiltin ⊢
    exact hConfig.concerns_iff.mpr (Or.inl hBuiltin)

/-- Words for one technology in two spellings, some of them empty or repeated. -/
def rustic : KeywordTable := (empty.extend "RUST" ["cargo", "", "Borrow"]).extend "Rust" ["CARGO"]

theorem tables_only_grow_rustic :
    Grown .empty [("RUST", "cargo"), ("RUST", ""), ("RUST", "Borrow"), ("Rust", "CARGO")] rustic ∧
      rustic = ⟨⟨[("rust", ["cargo", "borrow"])]⟩⟩ ∧
      rustic.isRelevant "Rust_code" "The BORROW checker" = true ∧
      (builtin.merge rustic).isRelevant "rust_code" "borrow" = true ∧
      rustic.merge rustic = rustic := by
  have hGrown : Grown .empty
      [("RUST", "cargo"), ("RUST", ""), ("RUST", "Borrow"), ("Rust", "CARGO")] rustic :=
    (Grown.empty.extend "RUST" ["cargo", "", "Borrow"]).extend "Rust" ["CARGO"]
  obtain ⟨-, -, hMatches, -, hSelf, -⟩ := tables_only_grow hGrown
  obtain ⟨-, -, -, hMerge, -, -⟩ := tables_only_grow .builtin
  refine ⟨hGrown, by decide +kernel, ?_, ?_, hSelf⟩
  · refine (hMatches _ _).mpr (Or.inr ⟨("RUST", "Borrow"), by simp, by decide, ?_⟩)
    exact ⟨by decide +kernel, by decide +kernel⟩
  · -- the built-in words know nothing of this technology
    rw [hMerge _ _ _ hGrown, Bool.or_eq_true, hMatches]
    refine Or.inr (Or.inr ⟨("RUST", "Borrow"), by simp, by decide, ?_⟩)
    exact ⟨by decide +kernel, by decide +kernel⟩

end ReviewPanel.KeywordTable
