import LayeredConfig.Proofs.Yaml.Run
import LayeredConfig.Yaml.Reader

namespace LayeredConfig.Yaml

theorem directives_of_content {first : Token} (h : isDirective first = false) (rest : List Token) :
    directives false [] (first :: rest) = some ([], first :: rest) := by
  cases first <;> first | rfl | cases h

theorem documentContent_of_content {first : Token} (h : first.bounds = false) (b : Builder)
    (hhead : b.head = first) :
    documentContent b = parseNode (2 * b.tokens.length + 2) .entry b := by
  subst hhead
  exact if_neg (by simpa [Token.bounds] using h)

/-- The start of a document need not be marked. -/
theorem Graph.ofTokens?_documentStart {tokens : List Token} {g : Graph}
    (hstarts : Tokenizer.StartsContent tokens) (h : Graph.ofTokens? tokens = some g) :
    Graph.ofTokens? (.documentStart :: tokens) = some g := by
  rcases hstarts with rfl | ⟨first, rest, rfl, hfirst⟩
  · exact h
  · have hkinds := hfirst
    simp only [Token.bounds, Bool.or_eq_false_iff, beq_eq_false_iff_ne] at hkinds
    obtain ⟨⟨⟨hdirective, hstart⟩, -⟩, hstream⟩ := hkinds
    have hunmarked : firstDocument (first :: rest) =
        parseNode (2 * (first :: rest).length + 2) .entry (Builder.start (first :: rest)) := by
      rw [firstDocument, directives_of_content hdirective, Option.bind_eq_bind, Option.bind_some]
      dsimp only
      rw [if_neg (by simp [hstart])]
    have hmarked : firstDocument (.documentStart :: first :: rest) =
        parseNode (2 * (first :: rest).length + 2) .entry (Builder.start (first :: rest)) := by
      rw [firstDocument, directives_of_content rfl, Option.bind_eq_bind, Option.bind_some]
      dsimp only
      rw [if_pos (by simp), if_neg (by simp)]
      exact documentContent_of_content hfirst _ rfl
    rw [Graph.ofTokens?] at *
    rw [if_neg (by simp [hstream]), hunmarked] at h
    rw [if_neg (by simp), hmarked]
    exact h

/-- A document is read back from the framed text of its own. -/
theorem read?_framed {text : String} {document : Document}
    (hlast : text.toList.getLast?.any isFinalBreak = true) (hfirst : BeginsContent text.toList)
    (hkept : endsKept text.toList = false) (h : read? text = some document) :
    read? ("---\n" ++ text ++ "\n") = some document := by
  obtain ⟨tokens, htokens, h⟩ := Option.bind_eq_some_iff.1 h
  obtain ⟨graph, hgraph, h⟩ := Option.bind_eq_some_iff.1 h
  obtain ⟨hframed, hstarts⟩ := Token.ofText?_framed hlast hfirst htokens hkept
  have htext : ("---\n" ++ text ++ "\n").toList =
      '-' :: '-' :: '-' :: '\n' :: (text.toList ++ ['\n']) := by
    simp [String.toList_append]
  rw [read?, htext, hframed, Option.bind_eq_bind, Option.bind_some,
    Graph.ofTokens?_documentStart hstarts hgraph]
  exact h

end LayeredConfig.Yaml
