import LayeredConfig.Logging.Directive
import LayeredConfig.Proofs.CommandLine.Program
import LayeredConfig.Proofs.Files.Change

namespace LayeredConfig

open Files Service

namespace CommandLine

variable {readFilter : Logging.FilterReader} {arguments : List String} {options : ServeOptions}
  {environment : List RawVariable} {w : World} {s : Settings} {held : Tree}

end CommandLine

end LayeredConfig
