import AfXdp.RingEndpoints
import AfXdp.FrameOwnership
import AfXdp.Reflection
import AfXdp.Counters
import AfXdp.FillProgress
import AfXdp.TransmitterClient
import AfXdp.WakeupErrors
import AfXdp.FilteredPeer
import AfXdp.FilterCapture
import AfXdp.ReflectChecksums
import AfXdp.RingTransparency
import AfXdp.ParseArgs
import AfXdp.RefillFill
import AfXdp.ServicePass
import AfXdp.RunReceiverSamples
import AfXdp.RunReceiverEnds
import AfXdp.ReleaseAcquire
import AfXdp.RingMemoryOrder
