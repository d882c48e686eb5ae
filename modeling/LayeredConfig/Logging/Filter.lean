import LayeredConfig.Logging.Level

namespace LayeredConfig.Logging

structure Filter where
  admits : Line → Bool

/-- Reads a filter. For a text that is none there are the messages of an error and of its causes. -/
abbrev FilterReader := String → Except (List String) Filter

end LayeredConfig.Logging
