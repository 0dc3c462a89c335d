/-! # Padding to a width -/

namespace TopicTables.Text

def padLeft (fill : Char) (width : Nat) (cs : List Char) : List Char :=
  List.replicate (width - cs.length) fill ++ cs

def padRight (fill : Char) (width : Nat) (cs : List Char) : List Char :=
  cs ++ List.replicate (width - cs.length) fill

theorem length_padRight (fill : Char) (width : Nat) (cs : List Char) :
    (padRight fill width cs).length = max width cs.length := by
  simp only [padRight, List.length_append, List.length_replicate]
  omega

end TopicTables.Text
