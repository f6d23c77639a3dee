import OpenAmp.Proof.NotifyWakeup
import OpenAmp.Proof.RingRepresentation
import OpenAmp.Proof.UsedIds
import OpenAmp.Proof.FirmwareStream
import OpenAmp.Proof.Lifecycle
import OpenAmp.Proof.RpmsgLengths
import OpenAmp.Proof.RpmsgBlocking
import OpenAmp.Proof.ChannelIsolation
import OpenAmp.Proof.NotifyDispatch
import OpenAmp.Proof.VringLayout
import OpenAmp.Proof.RpcCalls
import OpenAmp.Proof.ElfLoadState
import OpenAmp.Proof.RscPointers
import OpenAmp.Proof.LoadHistory
import OpenAmp.Proof.SlaveInit
import OpenAmp.Proof.RpmsgSession
import OpenAmp.Proof.SendTrace
import OpenAmp.Proof.AddBufferRefusal
import OpenAmp.Proof.RscTableBytes
import OpenAmp.Proof.LoadTerminates
import OpenAmp.Proof.LoadWrites
import OpenAmp.Proof.RejectedTable
import OpenAmp.Proof.LoadErrors
import OpenAmp.Proof.RprocMem
import OpenAmp.Proof.VdevCreate
import OpenAmp.Proof.NoblockInfo
import OpenAmp.Proof.ProxyIo
import OpenAmp.Proof.ServiceNames
import OpenAmp.Proof.BufferIndex
import OpenAmp.Proof.VdevConfig
import OpenAmp.Proof.StartupProgress
import OpenAmp.Proof.RpmsgNotify
import OpenAmp.Proof.PlatformPoll
import OpenAmp.Proof.ProxySession
import OpenAmp.Proof.RpmsgProgress
import OpenAmp.Proof.RpmsgChannels
import OpenAmp.Proof.ChannelRendezvous
import OpenAmp.Proof.ChannelTeardown
import OpenAmp.Proof.TestApps
import OpenAmp.Proof.MatrixApp
