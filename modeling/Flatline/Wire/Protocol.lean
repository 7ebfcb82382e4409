import Flatline.Wire.Text

/-!
# Protocol constants

Message numbers, reason codes, names and limits, under the names of `src/ssh/protocol.rs`.
-/

namespace Flatline

/-! ## Message numbers -/

def sshMsgDisconnect : UInt8 := 1
def sshMsgIgnore : UInt8 := 2
def sshMsgUnimplemented : UInt8 := 3
def sshMsgDebug : UInt8 := 4
def sshMsgServiceRequest : UInt8 := 5
def sshMsgServiceAccept : UInt8 := 6
def sshMsgExtInfo : UInt8 := 7
def sshMsgKexinit : UInt8 := 20
def sshMsgNewkeys : UInt8 := 21
def sshMsgUserauthRequest : UInt8 := 50
def sshMsgUserauthFailure : UInt8 := 51
def sshMsgUserauthSuccess : UInt8 := 52
def sshMsgUserauthBanner : UInt8 := 53
def sshMsgUserauthPkOk : UInt8 := 60
def sshMsgUserauthPasswdChangereq : UInt8 := 60
def sshMsgUserauthInfoRequest : UInt8 := 60
def sshMsgUserauthInfoResponse : UInt8 := 61
def sshMsgGlobalRequest : UInt8 := 80
def sshMsgRequestSuccess : UInt8 := 81
def sshMsgRequestFailure : UInt8 := 82
def sshMsgChannelOpen : UInt8 := 90
def sshMsgChannelOpenConfirmation : UInt8 := 91
def sshMsgChannelOpenFailure : UInt8 := 92
def sshMsgChannelWindowAdjust : UInt8 := 93
def sshMsgChannelData : UInt8 := 94
def sshMsgChannelExtendedData : UInt8 := 95
def sshMsgChannelEof : UInt8 := 96
def sshMsgChannelClose : UInt8 := 97
def sshMsgChannelRequest : UInt8 := 98
def sshMsgChannelSuccess : UInt8 := 99
def sshMsgChannelFailure : UInt8 := 100
/-- OpenSSH's `SSH2_MSG_PING`. -/
def sshMsgPing : UInt8 := 192
/-- OpenSSH's `SSH2_MSG_PONG`. -/
def sshMsgPong : UInt8 := 193

/-! ## Reason codes and data types -/

def sshOpenConnectFailed : UInt32 := 2
def sshOpenUnknownChannelType : UInt32 := 3
def sshExtendedDataStderr : UInt32 := 1

/-! ## Limits -/

def maxPacketPayloadLength : ℕ := 32768
def maxPacketLength : ℕ := 256 * 1024
def minPaddingLength : ℕ := 4

/-! ## Names -/

def kexStrictClient : Text := ascii "kex-strict-c-v00@openssh.com"
def extInfoClient : Text := ascii "ext-info-c"
def kexStrictServer : Text := ascii "kex-strict-s-v00@openssh.com"
def extInfoServer : Text := ascii "ext-info-s"
def sshServiceNameUserAuthenticationService : Text := ascii "ssh-userauth"
def sshGlobalRequestTypeCancelTcpIpForward : Text := ascii "cancel-tcpip-forward"
def sshGlobalRequestTypeTcpIpForward : Text := ascii "tcpip-forward"
def sshGlobalRequestTypeKeepAlive : Text := ascii "keepalive@openssh.com"
def sshGlobalRequestTypeHostKeys : Text := ascii "hostkeys-00@openssh.com"
def cancelStreamLocalForward : Text := ascii "cancel-streamlocal-forward@openssh.com"
def sshChannelTypeForwardedTcpIp : Text := ascii "forwarded-tcpip"
def sshChannelTypeAgentConnect : Text := ascii "agent-connect"
def sshChannelTypeAgentConnectOpenSSH : Text := ascii "auth-agent@openssh.com"
def sshChannelTypeForwardedStreamLocal : Text := ascii "forwarded-streamlocal@openssh.com"
def sshChannelTypeSession : Text := ascii "session"
def sshChannelTypeDirectTcpIp : Text := ascii "direct-tcpip"
def sshChannelTypeX11 : Text := ascii "x11"
def directStremLocal : Text := ascii "direct-streamlocal@openssh.com"

/-! ## SFTP -/

def sftpVersion : UInt32 := 3

def sshFxpInit : UInt8 := 1
def sshFxpVersion : UInt8 := 2
def sshFxpOpen : UInt8 := 3
def sshFxpClose : UInt8 := 4
def sshFxpRead : UInt8 := 5
def sshFxpWrite : UInt8 := 6
def sshFxpLstat : UInt8 := 7
def sshFxpFstat : UInt8 := 8
def sshFxpSetstat : UInt8 := 9
def sshFxpFsetstat : UInt8 := 10
def sshFxpOpendir : UInt8 := 11
def sshFxpReaddir : UInt8 := 12
def sshFxpRemove : UInt8 := 13
def sshFxpMkdir : UInt8 := 14
def sshFxpRmdir : UInt8 := 15
def sshFxpRealpath : UInt8 := 16
def sshFxpStat : UInt8 := 17
def sshFxpRename : UInt8 := 18
def sshFxpReadlink : UInt8 := 19
def sshFxpSymlink : UInt8 := 20
def sshFxpStatus : UInt8 := 101
def sshFxpHandle : UInt8 := 102
def sshFxpData : UInt8 := 103
def sshFxpName : UInt8 := 104
def sshFxpAttrs : UInt8 := 105
def sshFxpExtended : UInt8 := 200
def sshFxpExtendedReply : UInt8 := 201

def sshFilexferAttrSize : UInt32 := 0x00000001
def sshFilexferAttrUidgid : UInt32 := 0x00000002
def sshFilexferAttrPermissions : UInt32 := 0x00000004
def sshFilexferAttrAcmodtime : UInt32 := 0x00000008
def sshFilexferAttrExtended : UInt32 := 0x80000000

def opensshSftpExtPosixRename : Text := ascii "posix-rename@openssh.com"
def opensshSftpExtStatvfs : Text := ascii "statvfs@openssh.com"
def opensshSftpExtFstatvfs : Text := ascii "fstatvfs@openssh.com"
def opensshSftpExtHardlink : Text := ascii "hardlink@openssh.com"
def opensshSftpExtFsync : Text := ascii "fsync@openssh.com"
def opensshSftpExtLsetstat : Text := ascii "lsetstat@openssh.com"
def opensshSftpExtLimits : Text := ascii "limits@openssh.com"
def opensshSftpExtExpandPath : Text := ascii "expand-path@openssh.com"
def opensshSftpExtCopyData : Text := ascii "copy-data"
def opensshSftpExtHomeDirectory : Text := ascii "home-directory"
def opensshSftpExtUsersGroupsById : Text := ascii "users-groups-by-id@openssh.com"

end Flatline
