import ResponseCheck.Exchange
import ResponseCheck.Failure

/-! A failure is shown as its reason and then its frames, each from a line of its own on. So a frame
that is added shows at the end, and the first frame shows right after the reason. The time of a dump
stands in its first line, and nothing else in a dump depends on it. -/

namespace ResponseCheck

namespace Failure

/-- The text of frames, each on a line of its own. -/
def lines (frames : List Frame) : String := String.join (frames.map fun frame => "\n" ++ frame.text)

theorem message_withFrame (failure : Failure) (frame : Frame) :
    (failure.withFrame frame).message = failure.message ++ "\n" ++ frame.text := by
  simp [message, withFrame, reason, String.append_assoc]

/-- Arguments that come first are shown right after the reason. -/
theorem message_of_arguments {failure : Failure} {arguments : Json} {rest : List Frame}
    (h : failure.frames = .arguments arguments :: rest) :
    failure.message =
      failure.reason ++ "\nexpect arguments: " ++ arguments.compact ++ lines rest := by
  have hline : "\nexpect arguments: " = "\n" ++ "expect arguments: " := by decide
  have hframe : (Frame.arguments arguments).text = "expect arguments: " ++ arguments.compact := rfl
  rw [message, h, List.map_cons, String.join_cons, hframe, hline, lines]
  simp only [String.append_assoc]

end Failure

namespace Exchange

/-- What a dump of an exchange shows below the line with the time. -/
def shown (exchange : Exchange) : String :=
  (exchange.request.map requestText).getD "" ++ exchange.responseText exchange.response.json

theorem dump_eq (exchange : Exchange) (stamp : String) :
    exchange.dump stamp = "TIME: " ++ stamp ++ "\n" ++ exchange.shown := by
  have htime : s!"TIME: {stamp}\n" = "TIME: " ++ stamp ++ "\n" := rfl
  rw [dump, dumpOf, shown, htime]
  simp only [String.append_assoc]

end Exchange

/-- A failure that shows an exchange depends on the time in one line alone. -/
theorem Failure.message_withFrame_dump (failure : Failure) (exchange : Exchange) (stamp : String) :
    (failure.withFrame (.diagnostics (exchange.dump stamp))).message =
      failure.message ++ "\nTIME: " ++ stamp ++ "\n" ++ exchange.shown := by
  have hline : "\nTIME: " = "\n" ++ "TIME: " := by decide
  have hframe : (Frame.diagnostics (exchange.dump stamp)).text = exchange.dump stamp := rfl
  rw [message_withFrame, hframe, Exchange.dump_eq, hline]
  simp only [String.append_assoc]

end ResponseCheck
