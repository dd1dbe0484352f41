import BoardServices.Lib.Machine
import BoardServices.Lib.Strings
import BoardServices.Lib.BinaryRounding
import BoardServices.Lib.SkipRing
import BoardServices.PanelLed.Loop
import BoardServices.PanelLed.MovingAverage
import BoardServices.PanelLed.Alarm
import BoardServices.PanelLed.FailedReads
import BoardServices.PanelLed.History
import BoardServices.PanelLed.Recovery
import BoardServices.PanelLed.Arguments
import BoardServices.PanelLed.WrittenValues
import BoardServices.Socket.Conservation
import BoardServices.Socket.Pairing
import BoardServices.Socket.Echo
import BoardServices.Testmode.Naming
import BoardServices.Testmode.Device
import BoardServices.Tb573d.Dimming
import BoardServices.Tb573d.Leaks
import BoardServices.Tb573d.Blocks
import BoardServices.Tb573d.Accessors
import BoardServices.Tb573d.Verify
import BoardServices.Tb573d.Values
import BoardServices.Vsftpd.Accounting
import BoardServices.Vsftpd.Transfer
import BoardServices.Vsftpd.CommandChannel
import BoardServices.Vsftpd.SessionRun
import BoardServices.Vsftpd.AddressText
import BoardServices.Vsftpd.FileFilter
import BoardServices.Vsftpd.Confinement
import BoardServices.Vsftpd.LoginModels
