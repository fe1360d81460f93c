import ReviewPanel.Proofs.FinalSigma
import ReviewPanel.Proofs.Keywords

/-!
# Written words — what is found as it was written

A table keeps its technologies and words in lowercase, and looks for them in the lowercase of what
it is asked about. So a word that a message holds just as it was written should be found, whatever
its letters are. It is, as long as the word has no exposed sigma: such a sigma may be final in the
word and not in the message, or the other way round, and then the one lowercase is not a piece of
the other. The same goes for technologies and names of agents.

* `mentions_extend_of_piece`   — words without an exposed sigma are found.
* `isRelevant_extend_of_piece` — and the agents with them.
* `written_words_are_found`    — these are the words that are always found.
-/

namespace ReviewPanel.KeywordTable

open Text

variable {k : KeywordTable} {technology word agent message : String}

/-- A message that has a word as it is written mentions its technology. -/
theorem mentions_extend_of_piece (hSome : word ≠ "") (hSteady : ¬ HasExposedSigma word.toList)
    (hPiece : word.toList <:+: message.toList) :
    (k.extend technology [word]).mentions (lowercase technology) message = true := by
  refine mentions_iff.mpr ⟨lowercase word, ?_, infix_lowercase_of_steady hSteady hPiece⟩
  exact mem_wordsOf_extend_iff.mpr (Or.inr ⟨rfl, word, List.mem_singleton_self _, hSome, rfl⟩)

/-- So is an agent relevant whose name has the technology as it is written. -/
theorem isRelevant_extend_of_piece (hSome : word ≠ "")
    (hAgentSteady : ¬ HasExposedSigma technology.toList) (hSteady : ¬ HasExposedSigma word.toList)
    (hAgent : technology.toList <:+: agent.toList) (hMessage : word.toList <:+: message.toList) :
    (k.extend technology [word]).isRelevant agent message = true := by
  refine isRelevant_iff.mpr (concerns_extend_iff.mpr (Or.inr ?_))
  exact ⟨word, List.mem_singleton_self _, hSome, infix_lowercase_of_steady hAgentSteady hAgent,
    infix_lowercase_of_steady hSteady hMessage⟩

/-! ## A table with one word -/

/-- A table with one word finds nothing else. -/
theorem infix_of_mentions_one
    (hFound : (empty.extend technology [word]).mentions (lowercase technology) message = true) :
    (lowercase word).toList <:+: (lowercase message).toList := by
  obtain ⟨w, hWord, hPiece⟩ := mentions_iff.mp hFound
  obtain hOld | ⟨-, v, hAdded, -, rfl⟩ := mem_wordsOf_extend_iff.mp hWord
  · cases hOld
  · rwa [← List.mem_singleton.mp hAdded]

theorem connects_of_isRelevant_one
    (hFound : (empty.extend technology [word]).isRelevant agent message = true) :
    Connects technology word agent message := by
  obtain ⟨t, words, hNone, -⟩ | ⟨v, hAdded, -, hConnects⟩ :=
    concerns_extend_iff.mp (isRelevant_iff.mp hFound)
  · cases hNone
  · rwa [← List.mem_singleton.mp hAdded]

/--
**Written words are found, but for exposed sigmas.** A word without an exposed capital sigma, once
it is added to a technology, is mentioned in every message that holds it as it was written, and if
the technology has none either, every agent whose name holds the technology as it was written is
relevant to such a message. These are all the words and technologies of which this can be said: for
each other word there is a message with it in which it is not found, and for each other technology
an agent with it that is not relevant.
-/
theorem written_words_are_found (technology : String) (hSome : word ≠ "") :
    ((∀ (k : KeywordTable) message, word.toList <:+: message.toList →
        (k.extend technology [word]).mentions (lowercase technology) message = true) ↔
      ¬ HasExposedSigma word.toList) ∧
    ((∀ (k : KeywordTable) agent message,
        technology.toList <:+: agent.toList → word.toList <:+: message.toList →
          (k.extend technology [word]).isRelevant agent message = true) ↔
      ¬ HasExposedSigma technology.toList ∧ ¬ HasExposedSigma word.toList) := by
  refine ⟨⟨?_, ?_⟩, ?_, ?_⟩
  · -- an exposed sigma has a message around it in which the word is missed
    intro hFound hExposed
    obtain ⟨message, hHolds, hMissed⟩ := exists_missed_of_exposed hExposed
    exact hMissed (infix_of_mentions_one (hFound empty message hHolds))
  · intro hSteady k message hHolds
    exact mentions_extend_of_piece hSome hSteady hHolds
  · intro hFound
    constructor
    · -- the word is found in itself, so it is the technology that is missed
      intro hExposed
      obtain ⟨agent, hHolds, hMissed⟩ := exists_missed_of_exposed hExposed
      exact hMissed
        (connects_of_isRelevant_one (hFound empty agent word hHolds List.infix_rfl)).1
    · -- and the technology is found in itself
      intro hExposed
      obtain ⟨message, hHolds, hMissed⟩ := exists_missed_of_exposed hExposed
      exact hMissed
        (connects_of_isRelevant_one (hFound empty technology message List.infix_rfl hHolds)).2
  · rintro ⟨hAgentSteady, hSteady⟩ k agent message hAgent hMessage
    exact isRelevant_extend_of_piece hSome hAgentSteady hSteady hAgent hMessage

/-- The sigma of this word is before a cased letter, so it is found. -/
theorem written_words_are_found_before_letter :
    "ΣΗΜΑ" ≠ "" ∧ ¬ HasExposedSigma "ΣΗΜΑ".toList ∧
      (builtin.extend "Greek" ["ΣΗΜΑ"]).mentions "greek" "ΤΟ ΣΗΜΑΔΙ" = true ∧
      (builtin.extend "Greek" ["ΣΗΜΑ"]).isRelevant "Greek_code" "ΤΟ ΣΗΜΑΔΙ" = true := by
  have hSteady : ¬ HasExposedSigma "ΣΗΜΑ".toList := by decide +kernel
  have hAgentSteady : ¬ HasExposedSigma "Greek".toList := by decide +kernel
  have hMessage : "ΣΗΜΑ".toList <:+: "ΤΟ ΣΗΜΑΔΙ".toList := ⟨"ΤΟ ".toList, "ΔΙ".toList, by decide⟩
  have hAgent : "Greek".toList <:+: "Greek_code".toList := ⟨[], "_code".toList, by decide⟩
  have hLower : lowercase "Greek" = "greek" := by decide +kernel
  have hSome : "ΣΗΜΑ" ≠ "" := by decide
  obtain ⟨hMentions, hRelevant⟩ := written_words_are_found "Greek" hSome
  refine ⟨hSome, hSteady, ?_, hRelevant.mpr ⟨hAgentSteady, hSteady⟩ builtin _ _ hAgent hMessage⟩
  exact hLower ▸ hMentions.mpr hSteady builtin _ hMessage

/-- The sigma that ends this word is exposed: in a longer word with the same beginning it is not
final any more, and a table with the word misses a message that holds it. -/
theorem final_sigma_is_missed :
    "ΟΔΟΣ" ≠ "" ∧ "ΟΔΟΣ".toList <:+: "ΟΔΟΣΤΡΩΜΑ".toList ∧
      "greek".toList <:+: "greek_code".toList ∧
      (empty.extend "greek" ["ΟΔΟΣ"]).mentions (lowercase "greek") "ΟΔΟΣΤΡΩΜΑ" = false ∧
      (empty.extend "greek" ["ΟΔΟΣ"]).isRelevant "greek_code" "ΟΔΟΣΤΡΩΜΑ" = false :=
  ⟨by decide, ⟨[], "ΤΡΩΜΑ".toList, by decide⟩, ⟨[], "_code".toList, by decide⟩,
    by decide +kernel, by decide +kernel⟩

end ReviewPanel.KeywordTable
