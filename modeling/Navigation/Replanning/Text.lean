import Navigation.Replanning.Planner

namespace Navigation.Replanning

def Error.message : Error → String
  | .emptyGrid width height => s!"Grid must be non-empty, got {width}x{height}"
  | .outOfBounds role point width height =>
    s!"{role.name} {point} is outside the {width}x{height} grid"
  | .invalidLimits error => s!"Invalid planner config: Configuration error: {error.message}"
  | .noCell point width height => s!"{point} outside {width}x{height} grid"
  | .overflow reason => reason.message

end Navigation.Replanning
