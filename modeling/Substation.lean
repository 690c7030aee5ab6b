import Substation.HandOff
import Substation.Mixing
import Substation.EndToEnd
import Substation.FaultCause
import Substation.SliderColors
import Substation.SharedLine
import Substation.SharedFile
import Substation.Pacing
import Substation.Network
import Substation.Validity
import Substation.Progress
