set_option autoImplicit false

/-! # The environment

The variables that the tool looks at. -/

namespace Commissioning

/-- The variables that the tool looks at, each of which may be unset. -/
structure Environment where
  /-- The home directory, `HOME`. -/
  home : Option String := none
  /-- The directory for data, `XDG_DATA_HOME`. -/
  dataHome : Option String := none
  /-- The directory for downloads, `XDG_DOWNLOAD_DIR`. -/
  downloadDir : Option String := none
  /-- What is logged, `RUST_LOG`. -/
  logFilter : Option String := none
  deriving DecidableEq, Repr

end Commissioning
