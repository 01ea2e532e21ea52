/-!
# Names of characters 10000 to 1CFFF

The names of historic scripts, hieroglyphs and syllabaries,
in the written form that `CharacterName.search` reads.
-/

namespace Conform

/-- The names of the characters 10000 to 1CFFF. -/
def historicNames : String := "
z10000aL:E+_B>YLLABL;B008_Au38_Eu28_Iu61_Ou10_Uu01_DAu45_DEu07_DIu14_DOu51_DUv7_JAu46_JEz1000Du36_JO
u65_JUu77_KAu44_KEu67_KIu70_KOu81_KUv0_MAu13_MEu73_MIu15_MOu23_MUu06_NAu24_NEu30_NIu52_NOv5_NUu03_PA
u72_PEu39_PIu11_POu50_PUu16_QAu78_QEu21_QIu32_QOz10028u60_RAu27_REu53_RIu02_ROu26_RUu31>Au09>Eu41>I
u12>Ou58>Uv9_TAu04_TEu37_TIu05_TOu69_TUu54_WAu75_WEu40_WIv2_WOz1003Cu17_ZAu74_ZEz1003Fu20_ZOv5_A2
u43_A3u85_AUu71_DWEu90_DWOu48_NWAu29_PU2u62_PTEu76_RA2u33_RA3u68_RO2v6_TA2u87_TWEu91_TWO
z10050lMBOL_B018t9s22s34s47t9s56s63t4s79s82t3t6t9z10080jIDEOGRAM_B100_M=v2_WOM=v4_DE,v5_EQUIDwF_M+E
wM>T&LI@v6F_EWEwM_RAMv7F>HE-GOATwM_HE-GOATv8F>OWwM_BO+v9F_COWwM_BULLu20_WHEATv1_B+|Yv2_OLIVEv3>PICE
v5_CYP,USjM@OGRAM_B127_KAPOv8_K=AKOjIDEOGRAM_B130_OILv1_W:Ev2jM@OGRAM_B133_+EPAv5_M,I
jIDEOGRAM_B140_BR@ZEv1_GOLDv2v5_WOOLv6u50v1_HORNv2v3v4jM@OGRAM_B156_TURO2jIDEOGRAM_B157v8v9_CLOTHu60
v1v2_G+M~Tv3_+MOURv4v5v6v7v8v9u70v1v2v3_M@THv4v6_TREEv7v8v9u80v1v2v3v4v5v9u90v1_HELMETt220_FOOTSTOOL
v5_BATHTUBu30>PE+v1_+ROWv2v3>WORDv4v6u40_WHEE|^CH+IOTv1_CH+IOTv2_CH+IOT_FRAMEv3_WHEELv5v6
jM@OGRAM_B247_DIPTEjIDEOGRAM_B248v9u51v2v3v4_D+Tv5v6v7v8v9sVESSEL_B155y_B200y_B201y_B202y_B203y_B204
y_B205y_B206y_B207y_B208y_B209y_B210y_B211y_B212y_B213y_B214y_B215y_B216y_B217y_B218y_B219y_B221
y_B222y_B226y_B227y_B228y_B229y_B250y_B305z10100aAEGE=_WORD>EP+ATOR_L:EwDOThCHECK_M+Kz10107hNUMB,_@E
oTWOpHREEoFOURpIVEoSIXpEV~oE.oN:EoT~pW~TYpHIRTYoFORTYpIFTYoSIXTYpEV~TYoE.YoN:ETYo@;HUNDRED
oTWO_HUNDREDpHRE;HUNDREDoFOUR_HUNDREDpIV;HUNDREDoSIX_HUNDREDpEV~_HUNDREDoE._HUNDREDoN:;HUNDRED
o@;THOUS=DoTWO_THOUS=DpHRE;THOUS=DoFOUR_THOUS=DpIV;THOUS=DoSIX_THOUS=DpEV~_THOUS=DoE._THOUS=D
oN:;THOUS=DoT~_THOUS=DpW~TY_THOUS=DpHIRTY_THOUS=DoFORTY_THOUS=DpIFTY_THOUS=DoSIXTY_THOUS=D
pEV~TY_THOUS=DoE.Y_THOUS=DoN:ETY_THOUS=Dz10137hWE._BAS;UNIToFIRST>UBUNIToSEC@D>UBUNIToTHIRD>UBUNIT
oFOURTH>UBUNIThDRY_MEASUR;FIRST>UBUNIThLIQUI^MEASUR;FIRST>UBUNIThMEASUR;SEC@D>UBUNITpTHIRD>UBUNIT
aGREEK_ACROPH@IC_ATTIC_@;QU+T,yN;H&FyN;DRACHMAxFIVEyIFTYyIV;HUNDREDyIV;THOUS=DyIFTY_THOUS=DyIV;T&~TS
xT~_T&~TSxFIFTY_T&~TSx@;HUNDRE^T&~TSxFIV;HUNDRE^T&~TSx@;THOUS=^T&~TSxFIV;THOUS=^T&~TSyIV;STAT,S
xT~>TAT,SxFIFTY>TAT,Sx@;HUNDRED>TAT,SxFIV;HUNDRED>TAT,Sx@;THOUS=D>TAT,SxT~_THOUS=D>TAT,S
xFIFTY_THOUS=D>TAT,SxT~_MNASrH,AEUM_@;P|THR@rTHESPI=_@ErH,MI@I=_@ErEPIDAURE=_TWOrTHESPI=_TWO
rCYR~AIC_TWO_DRACHMASrEPIDAURE=_TWO_DRACHMASrTROEZ~I=_FIVEyI=_T~yI=_T~_&T,NAT;FORMrH,MI@I=_T~
rMESS~I=_T~rTHESPI=_T~yN_THIRTYsROEZ~I=_FIFTYyI=_FIFTY_&T,NAT;FORMrH,MI@I=_FIFTYrTHESPI=_FIFTY
yN_@;HUNDREDyN_THRE;HUNDREDrEPIDAURE=_FIV;HUNDREDrTROEZ~I=_FIV;HUNDREDsHESPI=_FIV;HUNDRED
rC+YSTI=_FIV;HUNDREDrNAXI=_FIV;HUNDREDrTHESPI=_@;THOUS=DyN_FIV;THOUS=DrDELPHIC_FIV;MNAS
rSTRATI=_FIFTY_MNASg@;H&F>IGNt_&T,NAT;FORMgTWO_THIRDS>IGNhHRE;QU+T,S>IGNgYE+>IGNgT&~T>IGN
gDRACHMA>IGNgOBOL>IGNgTWO_OBOLS>IGNhHRE;OBOLS>IGNgFOUR_OBOLS>IGNhIV;OBOLS>IGNgMETRETES>IGN
gKYATHOS_BAS;SIGNgLITRA>IGNgOUNKIA>IGNgXESTES>IGNg+TAB;SIGNiOURA>IGNgGRAMMA>IGNgTRYBLI@_BAS;SIGN
gZ,O>IGNg@;QU+T,>IGNgS:USOID>IGNg:DICTI@>IGNaNOMISMA>IGNz10190aROM=>EXT=S>IGNgUNCIA>IGNgSEMUNCIA>IGN
iXTULA>IGNgDIMIDIA>EXTULA>IGNgSILIQUA>IGNgD~+IUS>IGNgQU:+IUS>IGNgSEST,TIUS>IGNgDUP@DIUS>IGNgAS>IGN
gC~TURI&>IGNaASCIA>YMBOLz101A0aGREEK>YMBOL_TAU_RHOz101D0aPHAISTOS_DISC>IGN_PEDESTRI=uLUME^HEAD
tTATTOOE^HEADtCAPTIVEuHILDtWOM=tHELMETtGAUNT|TtTI+At+ROWtBOWtSHIELDtCLUBtM=AC|SvTTOCKtSAWtLID
tBOOM,=GtC+P~TRY_PL=EtDOLIUMtCOMBtSL:GtCOLUMNtBEEHIVEtSHIPtHORNuIDEtBULLS_|GtCATtRAMtEAG|tDOVEtTUNNY
tBEEtPL=;TREEtV:EtPAPYRUStROSETTEtLILYtOX_BACKtFLUTEtGRAT,tSTRA:,uM&L_AXEtWAVY_B=D
tCOMB::G_OBLIQU;STROKEz10280aLYCI=_|TT,_AoEoBpHoGoDoIoWoZoTHoJoKoQoLoMoNoMMoNNoUoPoKKoRoSoTpTo=o~oH
oXz102A0aC+I=_|TT,_AoP2oDoLoUUUoRoLDoA2oQoBoMoOoD2oToSHq2poC-18oUoNNoXoNoTT2oPoSSoIoEoUUUUoKp2oNDoUU
oGp2oSTq2oNGoIIoC-39oTToUUU2oRRoMBq2q3q4oLD2oE2oUUU3z102E0bOPTIC_EPACT_THOUS=DS_M+KnDIGIT_@EtTWO
uHREEtFOURuIVEtSIXuEV~tE.tN:EnNUMB,_T~vW~TYvHIRTYuFORTYvIFTYuSIXTYvEV~TYuE.YuN:ETYu@;HUNDRED
uTWO_HUNDREDvHRE;HUNDREDuFOUR_HUNDREDvIV;HUNDREDuSIX_HUNDREDvEV~_HUNDREDuE._HUNDREDuN:;HUNDRED
z10300aOL^IT&IC_|TT,_AsBEsKEsDEsEsVEsZEsHEsTHEsIsKAsELtMtNtSHsOsPEsSHEsKUs,tSsTEsUsEKSsPHEsKHEsEFtRS
sCHEsIIsUUsESSlNUM,&_@EtFIVEtT~tFIFTYz1032Dl|TT,_YEsNORTH,N_TSEsSOUTH,N_TSEaGOTHIC_|TT,_AHSAoBAIRK=
oGIBAoDAGSoAIHVUSoQAIRTHRAoIUJAoHAGLoTHIUTHoEISoKUSMAoLAGUSoM=NAoNAUTHSoJ,oURUSoPAIRTHRAoN:ETYoRAIDA
oSAUILoTEIWSoW:JAoFAIHUoIGGWSoHWAIRoOTH&oN:;HUNDREDz10350aOL^P,MIC_|TT,_=sBURsGAIsDOIsEsZHOIsDZHOI
sZATAsDZITAsIsKOKEs|IsM~OEsN~OEsVOOIsPEEIsREIsSIIsTAIsUsCH,YsSHOOIuCHOOIsYRYt,UsOtOsEFsHAsTSIUsV,sY,
vItATsIEsYUtAsIAaCOMB::G_OL^P,MIC_|TT,_=yT,_DOIyT,_ZATAyT,_N~OEyT,>IIz10380aUG+ITIC_|TT,_&PAqBETA
qGAMLAqKHAqDELTAqHOqWOqZETAqHOTAqTETqYODqKAFqSH:qLAMDAqMEMqDH&qNUNqZUqSAMKAqA:qPUqSADEqQOPAqRASHA
qTH=NAqGHA:qTOqIqUqSSUz1039FjWOR^DIVID,aOL^P,SI=>IGN_ArIrUrKAsUrGAsUrXArCArJAsIrTAsUrDAsIsUrTHArPA
rBArFArNAsUrMAsIsUrYArVAsIrRAsUrLArSArZArSHAsSArHAz103C8rAURAMAZDAAyDAA-2yDAAHArXSHAAYATHIYA
rDAHYAAUSHySH-2rBAGAsUUMISHmWOR^DIVID,mNUMB,_@EtTWOu~uW~TYtHUNDREDz10400aDES,ET_%!L@G_Iy@G_Ey@G_A
y@G_AHy@G_Oy@G_OOxSHORT_IyHORT_EyHORT_AyHORT_AHyHORT_OyHORT_OOxAYxOWxWUxYEExHxPEExBEExTEExDEExCHEE
xJEExKAYxGAYxEFxVEExETHxTHEExESxZEExESHxZHEEx,yLyMyNyNGxOIxEWiSM&!L@G_IyG_EyG_AyG_AHyG_OyG_OO
vSHORT_IyRT_EyRT_AyRT_AHyRT_OyRT_OOvAYvOWvWUvYEEvHvPEEvBEEvTEEvDEEvCHEEvJEEvKAYvGAYvEFvVEEvETHvTHEE
vESvZEEvESHvZHEEv,wLwMwNxGvOIvEWaSHAVI=_|TT,_PEEPpTOTpKICKpFEEpTHIGHpSOqUREpCHURCHpYEApHUNGpBIBpDEAD
pGAGpVOWpTHEYpZOOpMEASUREpJUDGEpWOEpHA-HApLOLLpMIMEpIFpEGGpASHqDOp@pWOOLpOUTpAHpRO+pNUNpEATpAGEpICE
pUPpOAKqOZEqILpAWEqREpORpAIRp,Rp+RAYpE+pI=pYEWaOSM=YA_|TT,_&EFpBApTApJApXApKHApDEELpRApSAqHI:pDHA
pCAYNpGApFApQAAFpKAAFpLA=pMI:pNUUNpWAWpHApYApApEpIpOpUpAApEEpOOz104A0iDIGIT_Z,Oo@EoTWOpHREEoFOURpIVE
oSIXpEV~oE.oN:Ez104B0cAG;%!AwIxNwHvBRAvCHAvEHCHAww:vHAwYAvIvKAvEHKAvKYAvLAvMAvNAvOw:vPAvEHPAvSAwHA
vTAvEHTAvTSAvEHTSAvTSHAvDHAvUvWAvKHAvGHAvZAwHAz104D8gSM&!AuIvNuHtBRAtCHAtEHCHAuu:tHAuYAtItKAtEHKA
tKYAtLAtMAtNAtOu:tPAtEHPAtSAuHAtTAtEHTAtTSAtEHTSAtTSHAtDHAtUtWAtKHAtGHAtZAuHAz10500aELBAS=_|TT,_ApBE
pCEqHEpDEpNDEpDHEpEIqpFEpGEqJEpHEpIpJEpKEp|q|pMEpNEqAqJEpOpPEpQEpREqREpSEqHEpTEqHEpUpVEpXEpYpZEqHE
pGHErAMMApKHEz10530aCAUCASI=_&B=I=_|TT,_&TyR_BETyR_GIMyR_DATyR_EByR_Z+LyR_EYNyR_ZHILyR_TASyR_CHA
yR_YOWDyR_ZHAyR_IRByR>HAyR_L=yR_:YAyR_XEYNyR_DY=yR_C+yR_JHOXyR_K+yR_LYITyR_HEYTyR_QAYyR_AORyR_CHOY
yR_CHIyR_CYAYyR_MAQyR_Q+yR_NOWCyR_DZYAYyR>HAKyR_JAYNyR_@yR_TYAYyR_FAMyR_DZAYyR_CHATyR_P~yR_GHEYS
yR_RATyR>EYKyR_VEYZyR_TIWRyR>HOYyR_IWNyR_CYAWyR_CAYNyR_YAYDyR_PIWRyR_KIWz1056FtCITATI@_M+K
aVITHKUQI_%!AyBBEyBEyCEyCHEyDEyDHEyEIyEyFEyGAz1057CyHAyHHAyIyIJEyJEyKAyLAyLLAyMEyNEyNJEyOyPEyQAyRE
z1058CySEySHEyTEyTHEyUyVEyXEz10594yYyZEz10597jSM&!AwBBExEwCExHEwDExHEwEIxwFEwGAz105A3wHAxHAwIxJEwJE
wKAwLAxLAwMEwNExJEwOwPEwQAwREz105B3wSExHEwTExHEwUwVEwXEz105BBwYwZEz10600aL:E+_A>IGN_AB001s2s3s4s5s6
s7s8s9r10s1s3s6s7r20s1tFtMs2tFtMs3tMs4s6s7s8p028BpB029r30s1s4s7s8s9r40s1s4s5s6s7s8s9r50s1s3s4s5s6s7
s8s9r60s1s5s6s7s9r70s3s4s6s7s8s9r80s1s2s5s6s7p100-102pB118r20p120BpB122s3r31AtBp131CpB164r71r80s8r91
p301r2r3r4r5r6r7r8r9AsBsCq10r1r2r3AsBsCr4r5r6r7r8r9q20r1r2r3r4r5r6r7r8r9q30r1r2r3r4r5r6r7r8r9q40r1r2
r3r4r5r6r7r8r9q50r1r2r3r4r5r6r7r8r9q60r1r2r3r4r5r6r7r8r9q70r1p400-VASr1-VASr2-VASr3-VASr4-VASr5-VAS
r6-VASr7-VASr8-VASr9-VASq10-VASr1-VASr2-VASr3-VASr4-VASr5-VASr6-VASr7-VASr8-VASp501r2r3r4r5r6r8r9q10
r1r2r3r5r6q20r1r3r4r5r6r7r8r9q30r1r2r4r5r6r7r8r9q40r1r2r5r7r8r9q50r1r2r3r4r5r6r7r9q63r4r5r6r8r9q70r1
r2r3r4r5r6r7r8r9q80r1r2r3r4r5r6r7r8r9q91r2r4r5r6r8p600r1r2r3r4r6r8r9q10r1r2r3r4r5r6r7r8r9q20r1r2r3r4
r6r7r8r9q34r7r8q40r2r3r4r5r6r8r9q51r2r3r4r5r6r7r8r9q60r1r2r3r4z10740p701_Ar2_Br3_Dr4_Er5_Fr6_Hr7_J
r8_Kr9_Ls-2_L2t3_L3t4_L4t6_L6q10_Wr1_Xr2_Yr3_OMEGAr4_ABBr5_BBr7_DDq26_EYYYq32_JEz10760p800r1r2r3r4r5
r6r7z10780aMODIFI,_|TT,>M&L_%L_AArUP,SCRIPT_TRI=GUL+_COL@yIPT_H&F_TRI=GUL+_COL@rM&L_AEw%L_BwB$HOOK
z10787wDZ_DIGRAPHy_DIGRAPH$RETROF|X_HOOKy_DIGRAPH$CURLxEZH_DIGRAPHx$TAILyWITH_HOOKyWITH_HOOK_=^TAIL
wREV,SE^EwCLOSE^REV,SE^OP~_EwF~G_DIGRAPHwRAMS_HORNw%L_GwG$HOOKw%L_G$HOOKwH$STROKEw%L_HwH~G$HOOK
wDOT|SS_J$STROK;=^HOOKwLS_DIGRAPHxZ_DIGRAPHx$BELTw%L_L$BELTwL$RETROF|X_HOOK_=^BELTxEZH
yZH$RETROF|X_HOOKwTURNE^YyRNE^Y$BELTwO$STROKEw%L_OExLOSE^OMEGAwQwTURNE^R$L@G_|G
yRNE^R$L@G_|G_=^RETROF|X_HOOKwR$TAILyWITH_FISHHOOKw%L_RwTC_DIGRAPH$CURLxS_DIGRAPH
y_DIGRAPH$RETROF|X_HOOKxESH_DIGRAPHx$RETROF|X_HOOKwV$R._HOOKz107B2w%L_YqGLOTT&>TOP$STROKE
qREV,SE^GLOTT&>TOP$STROKEqBILABI&_CLICKqD~T&_CLICKqLAT,&_CLICKq&VEOL+_CLICK
qRETROF|X_CLICK$RETROF|X_HOOKqSM&L>$CURLz10800aCYPRIOT>YLLABL;ArErIrOrUrJAz10808sOz1080ArKAsEsIsOsU
rLAsEsIsOsUrMAsEsIsOsUrNAsEsIsOsUrPAsEsIsOsUrRAsEsIsOsUrSAsEsIsOsUrTAsEsIsOsUrWAsEsIsOz10837rXAsE
z1083CrZAz1083FsOaIMP,I&_+AMAIC_|TT,_&EPHyBETHyGIMELyD&ETHyHEyWAWyZAY:yHETHyTETHyYODHyKAPHyLAMEDH
yMEMyNUNySAMEKHyAY:yPEySADHEyQOPHyRESHySH:yTAWz10857rSECTI@>IGNrNUMB,_@EyTWOyTHREEyT~yTW~TY
y@;HUNDREDy@;THOUS=DyT~_THOUS=DaP&MYR~;|TT,_&EPHrBETHrGIMELrD&ETHrHErWAWrZAY:rHETHrTETHrYODHrKAPH
rLAMEDHrMEMrF:&_NUNrNUNrSAMEKHrAY:rPErSADHErQOPHrRESHrSH:rTAWmFT-PO:T:G_F|UR@kR.-PO:T:G_F|UR@
kNUMB,_@ErTWOsHREErFOURsIVErT~sW~TYaNABATAE=_|TT,_F:&_&EPHr&EPHrF:&_BETHrBETHrGIMELrD&ETHrF:&_HErHE
rWAWrZAY:rHETHrTETHrF:&_YODHrYODHrF:&_KAPHrKAPHrF:&_LAMEDHrLAMEDHrF:&_MEMrMEMrF:&_NUNrNUNrSAMEKHrAY:
rPErSADHErQOPHrRESHrF:&>H:rSH:rTAWz108A7kNUMB,_@ErTWOsHREErFOURkCRUCIFORM_NUMB,_FOURkNUMB,_FIVErT~
sW~TYr@;HUNDREDz108E0aHATR=_|TT,_&EPHoBETHoGIMELoD&ETH-RESHoHEoWAWoZAYNoHETHoTETHoYODHoKAPHoLAMEDH
oMEMoNUNoSAMEKHoAYNoPEoSADHEoQOPHz108F4oSH:oTAWz108FBhNUMB,_@EoFIVEoT~pW~TYo@;HUNDRED
aPHO~ICI=_|TT,_&FsBETsGAMLsDELTsHEsWAUsZAIsHETsTETsYODsKAFsLAMDsMEMsNUNsSEMKsA:sPEsSADEsQOFsROSHsSH:
sTAUlNUMB,_@EsT~tW~TYs@;HUNDREDsTWOtHREEz1091FlWORD>EP+ATORaLYDI=_|TT,_AoBoGoDoEoVoIoYoKoLoMoNoOoR
oSSoToUoFoQoSoTTo=o~oLYoNNoCz1093FhTRI=GUL+_M+Kz10980aM,OITIC_HI,OGLYPHIC_|TT,_AyTT,_EyTT,_IyTT,_O
yTT,_YAyTT,_WAyTT,_BAyTT,_BA-2yTT,_PAyTT,_MAyTT,_NAyTT,_NA-2yTT,_NEyTT,_NE-2yTT,_RAyTT,_RA-2yTT,_LA
yTT,_KHAyTT,_HHAyTT,>AyTT,>A-2yTT,>EyTT,_KAyTT,_QAyTT,_TAyTT,_TA-2yTT,_TEyTT,_TE-2yTT,_TOyTT,_DA
wSYMBOL_VIDJyMBOL_VIDJ-2jCURSIV;|TT,_AyEyIyOyYAyWAyBAyPAyMAyNAyNEyRAyLAyKHAyHHAySAy+CHAIC>AySEyKAyQA
yTAyTEyTOyDAz109BCrFRACTI@_E|V~_TWELFTHSyN_@;H&FrLOGOGRAM_RMTyM_IMNrNUMB,_@EyTWOyTHREEyFOURyFIVEySIX
ySEV~yE.yN:EyT~yTW~TYyTHIRTYyFORTYyFIFTYySIXTYySEV~TYz109D2y@;HUNDREDyTWO_HUNDREDyTHRE;HUNDRED
yFOUR_HUNDREDyFIV;HUNDREDySIX_HUNDREDySEV~_HUNDREDyE._HUNDREDyN:;HUNDREDy@;THOUS=DyTWO_THOUS=D
yTHRE;THOUS=DyFOUR_THOUS=DyFIV;THOUS=DySIX_THOUS=DySEV~_THOUS=DyE._THOUS=DyN:;THOUS=DyT~_THOUS=D
yTW~TY_THOUS=DyTHIRTY_THOUS=DyFORTY_THOUS=DyFIFTY_THOUS=DySIXTY_THOUS=DySEV~TY_THOUS=DyE.Y_THOUS=D
yN:ETY_THOUS=Dy@;HUNDRE^THOUS=DyTWO_HUNDRE^THOUS=DyTHRE;HUNDRE^THOUS=DyFOUR_HUNDRE^THOUS=D
yFIV;HUNDRE^THOUS=DySIX_HUNDRE^THOUS=DySEV~_HUNDRE^THOUS=DyE._HUNDRE^THOUS=DyN:;HUNDRE^THOUS=D
rFRACTI@_@;TWELFTHyN_TWO_TWELFTHSyN_THRE;TWELFTHSyN_FOUR_TWELFTHSyN_FIV;TWELFTHSyN>IX_TWELFTHS
yN>EV~_TWELFTHSyN_E._TWELFTHSyN_N:;TWELFTHSyN_T~_TWELFTHSaKH+OSHTHI_|TT,_AlVOWEL>IGN_IwUwVOC&IC_R
z10A05wEwOz10A0Cr|NGTH_M+KlSIGN_DOUBL;R:G_BELOWq=USV+AqVIS+GAl|TT,_KAtHAsGAtHAz10A15sCAtHAsJA
z10A19sNYAsTTAuHAsDDAuHAsNNAsTAtHAsDAtHAsNAsPAtHAsBAtHAsMAsYAsRAsLAsVAsSHAtSAtAsZAsHAsKKAsTTTHAvA
sVHAz10A38lSIGN_B+_ABOVEqCAUDAqDOT_BELOWz10A3FlVIRAMAlDIGIT_@ErTWOsHREErFOURlNUMB,_T~tW~TYs@;HUNDRED
wTHOUS=DlFRACTI@_@;H&Fz10A50lPUNCTUATI@_DOTxSM&L_CIRC|xCIRC|yRESC~T_B+xM=G&AMxLOTUSxD=DAyOUBL;D=DA
xL:ESz10A60aOLD>OUTH_+ABI=_|TT,_HEy_LAMEDHy_HETHy_MEMy_QOPHy_WAWy>H:y_RESHy_BETHy_TAWy>ATy_KAPHy_NUN
y_KHETHy>ADHEy>AMEKHy_FEy_&EFy_AYNy_DHADHEy_GIMELy_D&ETHy_GHAYNy_TETHy_ZAYNy_DH&ETHy_YODHy_THAW
y_THETHsNUMB,_@Ey_FIFTYv,IC_:DICATOReNORTH_+ABI=_|TT,_HEHy_LAMy_HAHy_MEEMy_QAFy_WAWy_ES-2y_REHy_BEH
y_TEHy_ES-1y_KAFy_NO@y_KHAHy>ADy_ES-3y_FEHy_&EFy_A:y_DADy_GEEMy_D&y_GHA:y_TAHy_ZA:y_TH&y_YEHy_THEH
y_ZAHsNUMB,_@Ey_T~y_TW~TYz10AC0aM=ICHAE=_|TT,_&EPHsBETHtHETHsGIMELtHIMELsD&ETHsHEsWAWlSIGN_UD
l|TT,_ZAY:tHAY:sJAY:tHAY:sHETHsTETHsYODHsKAPHsXAPHsKHAPHsLAMEDHsDHAMEDHsTHAMEDHsMEMsNUNsSAMEKHsAY:
tAY:sPEsFEsSADHEsQOPHsXOPHsQHOPHsRESHsSH:tSH:sTAWlABBREVIATI@_M+K_ABOVEyM+K_BELOWz10AEBlNUMB,_@E
sFIVEsT~tW~TYs@;HUNDREDlPUNCTUATI@>T+xF|UR@xDOUBL;DOT_WITH:_DOTyOT_WITH:_DOTyOTxTWO_DOTSxL:;FILL,
z10B00aAVEST=_|TT,_AqAqOqAOqNq=qErEpEqEpOqOpIqIpUqUpKEpXEqYEqVEpGEqGEqHEpCEpJEpTEqHEpDEqHEpTTEpPEpFE
pBEqHEpNGErYErVEqEqYEqNEpMEpHMEpYYEqEpVEpREp|pSEpZEpSHEpZHEpSHYEqSHEpHEz10B39iABBREVIATI@_M+K
aT:Y_TWO_DOTS_OV,_@;DOT_PUNCTUATI@aSM&L_TWO_DOTS_OV,_@;DOT_PUNCTUATI@
aL+G;TWO_DOTS_OV,_@;DOT_PUNCTUATI@g@;DOT_OV,_TWO_DOTS_PUNCTUATI@gTWO_R:GS_OV,_@;R:G_PUNCTUATI@
g@;R:G_OV,_TWO_R:GS_PUNCTUATI@a:SCRIPTI@&_P+THI=_|TT,_&EPHyETT,_BETHyETT,_GIMELyETT,_D&ETHyETT,_HE
yETT,_WAWyETT,_ZAY:yETT,_HETHyETT,_TETHyETT,_YODHyETT,_KAPHyETT,_LAMEDHyETT,_MEMyETT,_NUNyETT,>AMEKH
yETT,_AY:yETT,_PEyETT,>ADHEyETT,_QOPHyETT,_RESHyETT,>H:yETT,_TAWz10B58xNUMB,_@EyUMB,_TWOyUMB,_THREE
yUMB,_FOURyUMB,_T~yUMB,_TW~TYyUMB,_@;HUNDREDyUMB,_@;THOUS=DqHLAVI_|TT,_&EPHyTT,_BETHyTT,_GIMEL
yTT,_D&ETHyTT,_HEyTT,_WAW-AY:-RESHyTT,_ZAY:yTT,_HETHyTT,_TETHyTT,_YODHyTT,_KAPHyTT,_LAMEDH
yTT,_MEM-QOPHyTT,_NUNyTT,>AMEKHyTT,_PEyTT,>ADHEyTT,>H:yTT,_TAWz10B78wNUMB,_@EyMB,_TWOyMB,_THREE
yMB,_FOURyMB,_T~yMB,_TW~TYyMB,_@;HUNDREDyMB,_@;THOUS=DaPS&T,_PAHLAVI_|TT,_&EPHxBETHxGIMELxD&ETHxHE
xWAW-AY:-RESHxZAY:xHETHxYODHxKAPHxLAMEDHxMEM-QOPHxNUNxSAMEKHxPExSADHEyH:xTAWz10B99qSECTI@_M+K
qTURNED>ECTI@_M+KqFOUR_DOTS$CROSSyS$DOTz10BA9qNUMB,_@ExTWOyHREExFOURxT~yW~TYx@;HUNDRED
z10C00aOL^TURKIC_|TT,_ORKH@_AsY~ISEI_AyI_AEsORKH@_IsY~ISEI_IyI_EsORKH@_Oy_OEsY~ISEI_OEsORKH@_AB
sY~ISEI_ABsORKH@_AEBsY~ISEI_AEBsORKH@_AGsY~ISEI_AGsORKH@_AEGsY~ISEI_AEGsORKH@_ADsY~ISEI_ADsORKH@_AED
y_EZsY~ISEI_EZsORKH@_AYsY~ISEI_AYsORKH@_AEYsY~ISEI_AEYsORKH@_AEKsY~ISEI_AEKsORKH@_OEKsY~ISEI_OEK
sORKH@_&sY~ISEI_&sORKH@_AELy_ELTy_EMy_=y_A~sY~ISEI_A~sORKH@_~TsY~ISEI_~TsORKH@_~CsY~ISEI_~CsORKH@_~Y
sY~ISEI_~YyI_=GsORKH@_~GsY~ISEI_A~GsORKH@_EPy_OPy_ICy_ECsY~ISEI_ECsORKH@_AQsY~ISEI_AQsORKH@_IQ
sY~ISEI_IQsORKH@_OQsY~ISEI_OQsORKH@_+sY~ISEI_+sORKH@_A,y_ASy_AESy_ASHsY~ISEI_ASHsORKH@_ESH
sY~ISEI_ESHsORKH@_ATsY~ISEI_ATsORKH@_AETsY~ISEI_AETsORKH@_OTy_BASHz10C80eHUNG+I=_%!AyTT,_AAyTT,_EB
yTT,_AMByTT,_ECyTT,_~CyTT,_ECSyTT,_EDyTT,_=DyTT,_EyTT,_CLOS;EyTT,_EEyTT,_EFyTT,_EGyTT,_EGYyTT,_EH
yTT,_IyTT,_IIyTT,_EJyTT,_EKyTT,_AKyTT,_UNKyTT,_ELyTT,_ELYyTT,_EMyTT,_~yTT,_~YyTT,_OyTT,_OO
yTT,_NIKOLSBURG_OEyTT,_RUDIM~TA_OEyTT,_OEEyTT,_EPyTT,_EMPyTT,_,yTT,>HORT_,yTT,_ESyTT,_ESZyTT,_ET
yTT,_~TyTT,_ETYyTT,_ECHyTT,_UyTT,_UUyTT,_NIKOLSBURG_UEyTT,_RUDIM~TA_UEyTT,_EVyTT,_EZyTT,_EZS
yTT,_~T-SHAPED>IGNyTT,_USz10CC0oSM&!Ay,_AAy,_EBy,_AMBy,_ECy,_~Cy,_ECSy,_EDy,_=Dy,_Ey,_CLOS;Ey,_EE
y,_EFy,_EGy,_EGYy,_EHy,_Iy,_IIy,_EJy,_EKy,_AKy,_UNKy,_ELy,_ELYy,_EMy,_~y,_~Yy,_Oy,_OO
y,_NIKOLSBURG_OEy,_RUDIM~TA_OEy,_OEEy,_EPy,_EMPy,_,y,>HORT_,y,_ESy,_ESZy,_ETy,_~Ty,_ETYy,_ECHy,_U
y,_UUy,_NIKOLSBURG_UEy,_RUDIM~TA_UEy,_EVy,_EZy,_EZSy,_~T-SHAPED>IGNy,_USz10CFAoNUMB,_@EvFIVEvT~
vFIFTYv@;HUNDREDy_THOUS=DaH=IFI_ROH:GYA_|TT,_AxBAxPAxTAyTAxJAxCAxHAxKHAxFAxDAyDAxRAyRAxZAxSAyHAxKA
xGAxLAxMAxNAxWAxK:NA_WAxYAxK:NA_YAxNGAyYAxVAqVOWEL_AwIwUwEwOqM+K>AK:vNA_KH@NAqSIGN_H+BAHAYvTAH&AxNA
xSSIz10D30qDIGIT_Z,Ow@EwTWOxHREEwFOURxIVEwSIXxEV~wE.wN:Ez10E60aRUMI_DIGIT_@ElTWOmHREElFOURmIVElSIX
mEV~lE.lN:EfNUMB,_T~nW~TYnHIRTYmFORTYnIFTYmSIXTYnEV~TYmE.YmN:ETYm@;HUNDREDmTWO_HUNDREDnHRE;HUNDRED
mFOUR_HUNDREDnIV;HUNDREDmSIX_HUNDREDnEV~_HUNDREDmE._HUNDREDmN:;HUNDREDfFRACTI@_@;H&FsQU+T,sTHIRD
oTWO_THIRDSz10E80aYEZIDI_|TT,_ELIFoBEoPEpHEoTHEoSEoCIMpHIMqHIMoHHAoXAoD&oZ&oRApHAoZAoJAoS:pH:pADoDAD
oTAoZEoEYNoXHEYNoFAoVAq_&T,NAT;FORMoQAFoKAFpHAFoGAFoLAMoMIMoNUNoUMoWAWoOWoEWoHAYoYOToET
z10EABhCOMB::G_HAMZA_M+KrMADDA_M+KhHYPH~ATI@_M+Kz10EB0h|TT,_LAM$DOT_ABOVEoYOT$CIRCUMF|X_ABOVE
z10F00aOLD>OGDI=_|TT,_&EPHtF:&_&EPHtBETHtF:&_BETHtGIMELtHEtF:&_HEtWAWtZAY:tHETHtYODHtKAPHtLAMEDHtMEM
tNUNtF:&_NUNy_NUN$V,TIC&_TAILtSAMEKHtAY:uLT,NAT;AY:tPEtSADHEtF:&>ADHEy>ADHE$V,TIC&_TAIL
tRESH-AY:-D&ETHtSH:tTAWtF:&_TAWy_TAW$V,TIC&_TAILmNUMB,_@EtTWOuHREEtFOURuIVEtT~uW~TYuHIRTYt@;HUNDRED
mFRACTI@_@;H&FmLIGATUR;AY:-D&ETHz10F30aSOGDI=_|TT,_&EPHpBETHpGIMELpHEpWAWpZAY:pHETHpYODHpKAPHpLAMEDH
pMEMpNUNpSAMEKHpAY:pPEpSADHEpRESH-AY:pSH:pTAWpFETHp|SHi:DEP~D~T>H:iCOMB::G_DOT_BELOWsTWO_DOTS_BELOW
sDOT_ABOVEsTWO_DOTS_ABOVEsCURV;ABOVEyBELOWsHOOK_ABOVExBELOWsL@G_HOOK_BELOWsRESH_BELOWsSTROK;BELOW
iNUMB,_@EpT~qW~TYp@;HUNDREDiPUNCTUATI@_TWO_V,TIC&_B+SyV,TIC&_B+S$DOTSuCIRC|$DOTuTWO_CIRC|S$DOTS
uH&F_CIRC|$DOTz10F70aOL^UYGHUR_|TT,_&EPHsBETHsGIMEL-HETHsWAWsZAY:sF:&_HETHsYODHsKAPHsLAMEDHsMEMsNUN
sSAMEKHsPEsSADHEsRESHsSH:sTAWs|SHlCOMB::G_DOT_ABOVEy_BELOWvTWO_DOTS_ABOVEy_DOTS_BELOWlPUNCTUATI@_B+
xTWO_B+SyWO_DOTSxFOUR_DOTSz10FB0aCHORASMI=_|TT,_&EPHsSM&L_&EPHsBETHsGIMELsD&ETHsHEsWAWsCUR|^WAWsZAY:
sHETHsYODHsKAPHsLAMEDHsMEMsNUNsSAMEKHsAY:sPEsRESHsSH:sTAWlNUMB,_@EsTWOtHREEsFOURsT~tW~TYs@;HUNDRED
z10FE0aELYMAIC_|TT,_&EPHpBETHpGIMELpD&ETHpHEpWAWpZAY:pHETHpTETHpYODHpKAPHpLAMEDHpMEMpNUNpSAMEKHpAY:
pPEpSADHEpQOPHpRESHpSH:pTAWjIGATUR;ZAY:-YODHz11000aBRAHMI>IGN_C=DRAB:DUm=USV+AmVIS+GAmJIHVAMULIYA
mUPADHM=IYAh|TT,_ApAoIpIoUpUoVOC&IC_RxRwLxLoEoAIoOoAUoKApHAoGApHAoNGAoCApHAoJApHAoNYAoTTAqHAoDDAqHA
oNNAoTApHAoDApHAoNAoPApHAoBApHAoMAoYAoRAoLAoVAoSHApSApAoHAoLLAoOL^TAMIL_LLLAyRRAyNNNAhVOWEL>IGN_AA
sBHATTIPROLU_AAsItIsUtUsVOC&IC_RyC_RRyC_LyC_LLsEsAIsOsAUiIRAMAhD=DAiOUBL;D=DAhPUNCTUATI@_DOTvUBL;DOT
tL:EtCRESC~T_B+tLOTUSz11052hNUMB,_@EoTWOpHREEoFOURpIVEoSIXpEV~oE.oN:EoT~pW~TYpHIRTYoFORTYpIFTYoSIXTY
pEV~TYoE.YoN:ETYo@;HUNDREDsTHOUS=DhDIGIT_Z,On@EnTWOoHREEnFOURoIVEnSIXoEV~nE.nN:E
hSIGN_OL^TAMIL_VIRAMAh|TT,_OL^TAMIL>HORT_EySHORT_OhVOWEL>IGN_OL^TAMIL>HORT_EyMIL>HORT_O
h|TT,_OL^TAMIL_LLAz1107FhNUMB,_JO:,aKAITHI>IGN_C=DRAB:DUm=USV+AmVIS+GAh|TT,_ApAoIpIoUpUoEoAIoOoAUoKA
pHAoGApHAoNGAoCApHAoJApHAoNYAoTTAqHAoDDAqDHAqHAoRHAoNNAoTApHAoDApHAoNAoPApHAoBApHAoMAoYAoRAoLAoVA
oSHApSApAoHAhVOWEL>IGN_AAsItIsUtUsEsAIsOsAUhSIGN_VIRAMAmNUKTAhABBREVIATI@>IGNh~UM,ATI@>IGNhNUMB,>IGN
hSECTI@_M+KhDOUBL;SECTI@_M+Ki=DAiOUBL;D=DAhVOWEL>IGN_VOC&IC_Rz110CDhNUMB,>IGN_ABOVE
z110D0aSORA>OMP~G_|TT,>AHuTAHuBAHuCAHuDAHuGAHuMAHuNGAHuLAHuNAHuVAHuPAHuYAHuRAHuHAHuKAHuJAHuNYAHuAH
uEEHuIHuUHuOHuEHuMAEz110F0nDIGIT_Z,Ot@EtTWOuHREEtFOURuIVEtSIXuEV~tE.tN:Ez11100aCHAKMA>IGN_C=DRAB:DU
m=USV+AmVIS+GAh|TT,_AAoIoUoEoKAApHAAoGAApHAAoNGAAoCAApHAAoJAApHAAoNYAAoTTAAqHAAoDDAAqHAAoNNAAoTAA
pHAAoDAApHAAoNAAoPAApHAAoBAApHAAoMAAoYYAApAAoRAAoLAAoWAAoSAAoHAAhVOWEL>IGN_AsItIsUtUsEsAIsOsAUsOI
hO_M+KhAU_M+KhVIRAMAhMAAYYAAz11136hDIGIT_Z,On@EnTWOoHREEnFOURoIVEnSIXoEV~nE.nN:EhSECTI@_M+KhD=DA
iOUBL;D=DAhQUESTI@_M+Kh|TT,_LHAAhVOWEL>IGN_AAsEIh|TT,_VAAz11150aMAHAJ=I_|TT,_AqIqUqEqOqKArHAqGArHA
qCArHAqJArHAqNYAqTTAsHAqDDAsHAqNNAqTArHAqDArHAqNAqPArHAqBArHAqMAqRAqLAqVAqSAqHAqRRAjSIGN_NUKTA
jABBREVIATI@>IGNjSECTI@_M+KjLIGATUR;SHRIz11180aSH+ADA>IGN_C=DRAB:DUn=USV+AnVIS+GAi|TT,_AqApIqIpUqU
pVOC&IC_RyRxLyLpEpAIpOpAUpKAqHApGAqHApNGApCAqHApJAqHApNYApTTArHApDDArHApNNApTAqHApDAqHApNApPAqHApBA
qHApMApYApRApLAqLApVApSHAqSAqApHAiVOWEL>IGN_AAtIuItUuUtVOC&IC_RyIC_RRyIC_LyIC_LLtEtAItOtAU
iSIGN_VIRAMAnAVAGRAHAnJIHVAMULIYAnUPADHM=IYAiOMiD=DAjOUBL;D=DAiABBREVIATI@>IGNiSEP+ATORj=DHI_M+K
jIGN_NUKTAiVOWEL_MODIFI,_M+KiEXTRA>HORT_VOWEL_M+KiSUTRA_M+KiVOWEL>IGN_PRISHTHAMATRA_E
iSIGN_:V,TE^C=DRAB:DUiDIGIT_Z,Oo@EoTWOpHREEoFOURpIVEoSIXpEV~oE.oN:EiEKAMiSIGN>IDDHAMiHEADSTROKE
iC@T:UATI@>IGNiSECTI@_M+K-1v2z111E1b:H&A_+CHAIC_DIGIT_@EwTWOxHREEwFOURxIVEwSIXxEV~wE.wN:EqNUMB,_T~
yW~TYyHIRTYxFORTYyIFTYxSIXTYyEV~TYxE.YxN:ETYx@;HUNDREDyN;THOUS=Dz11200aKHOJKI_|TT,_ApAoIoUoEoAIoOoAU
oKApHAoGApGApHAoNGAoCApHAoJApJAz11213oNYAoTTAqHAoDDAqHAoNNAoTApHAoDApDDApHAoNAoPApHAoBApBApHAoMAoYA
oRAoLAoVAoSAoHAoLLAhVOWEL>IGN_AAsItIsUsEsAIsOsAUhSIGN_=USV+AmVIRAMAmNUKTAmSHADDAhD=DAiOUBL;D=DA
hWORD>EP+ATORhSECTI@_M+KhDOUBL;SECTI@_M+KhABBREVIATI@>IGNhSIGN>UKUNz11280aMULT=I_|TT,_ApIpUpEpKAqHA
pGAz11288qHAz1128ApCAqHApJAqJAz1128FpNYApTTArHApDDArDArHApNNApTAqHApDAqHApNApPAqHApBAz1129FqHApMApYA
pRApLApVApSApHApRRAqHAiSECTI@_M+Kz112B0aKHUDAWADI_|TT,_AsArIsIrUsUrErAIrOrAUrKAsHArGAsGAsHArNGArCA
sHArJAsJAsHArNYArTTAtHArDDAtDArRRArDDHArNNArTAsHArDAsHArNArPAsHArBAsBAsHArMArYArRArLArVArSHAsArHA
kSIGN_=USV+AkVOWEL>IGN_AAvIwIvUwUvEvAIvOvAUkSIGN_NUKTApVIRAMAz112F0kDIGIT_Z,Oq@EqTWOrHREEqFOURrIVE
qSIXrEV~qE.qN:Ez11300aGR=THA>IGN_COMB::G_=USV+A_ABOVEo=DRAB:DUn=USV+AnVIS+GAz11305i|TT,_AqApIqIpUqU
pVOC&IC_RxLz1130FpEEpAIz11313pOOpAUpKAqHApGAqHApNGApCAqHApJAqHApNYApTTArHApDDArHApNNApTAqHApDAqHApNA
z1132ApPAqHApBAqHApMApYApRAz11332pLAqLAz11335pVApSHAqSAqApHAz1133BaCOMB::G_B:DU_BELOW
aGR=THA>IGN_NUKTAnAVAGRAHAiVOWEL>IGN_AAtIuItUuUtVOC&IC_RyIC_RRz11347tEEtAIz1134BtOOtAUiSIGN_VIRAMA
z11350iOMz11357iAU_|NGTH_M+Kz1135DiSIGN_PLUTAi|TT,_VEDIC_=USV+AvDOUBL;=USV+AqOC&IC_RRxLL
iVOWEL>IGN_VOC&IC_LyIC_LLz11366aCOMB::G_GR=THA_DIGIT_Z,Oy@EyTWOyTHREEyFOURyFIVEySIXz11370s|TT,_Ay_KA
y_NAy_VIy_PAz11400aNEWA_|TT,_AnAmInImUnUmVOC&IC_RvRuLvLmEmAImOmAUmKAnHAmGAnHAmNGAoHAmCAnHAmJAnHAmNYA
oHAmTTAoHAmDDAoHAmNNAmTAnHAmDAnHAmNAnHAmPAnHAmBAnHAmMAnHAmYAmRAnHAmLAnHAmWAmSHAnSAnAmHAfVOWEL>IGN_AA
qIrIqUrUqVOC&IC_RyRRyLyLLqEqAIqOqAUfSIGN_VIRAMAkC=DRAB:DUk=USV+AkVIS+GAkNUKTAkAVAGRAHAkF:&_=USV+AfOM
fSIDDHIfD=DAgOUBL;D=DAfCOMMAfGAP_FILL,fABBREVIATI@>IGNfDIGIT_Z,Ol@ElTWOmHREElFOURmIVElSIXmEV~lE.lN:E
gOUBL;COMMAfPLACEHOLD,_M+Kz1145Df:S,TI@>IGNfS=DHI_M+Kf|TT,_VEDIC_=USV+AfSIGN_JIHVAMULIYAkUPADHM=IYA
z11480aTIRHUTA_=JIi|TT,_AqApIqIpUqUpVOC&IC_RyRxLyLpEpAIpOpAUpKAqHApGAqHApNGApCAqHApJAqHApNYApTTArHA
pDDArHApNNApTAqHApDAqHApNApPAqHApBAqHApMApYApRApLApVApSHAqSAqApHAiVOWEL>IGN_AAtIuItUuUtVOC&IC_R
yIC_RRyIC_LyIC_LLtEtSHORT_EtAItOtSHORT_OtAUiSIGN_C=DRAB:DUn=USV+AnVIS+GApRAMAnNUKTAnAVAGRAHAiGV=G
iABBREVIATI@>IGNiOMz114D0iDIGIT_Z,Oo@EoTWOpHREEoFOURpIVEoSIXpEV~oE.oN:Ez11580aSIDDHAM_|TT,_AqApIqIpU
qUpVOC&IC_RyRxLyLpEpAIpOpAUpKAqHApGAqHApNGApCAqHApJAqHApNYApTTArHApDDArHApNNApTAqHApDAqHApNApPAqHA
pBAqHApMApYApRApLApVApSHAqSAqApHAiVOWEL>IGN_AAtIuItUuUtVOC&IC_RyIC_RRz115B8tEtAItOtAUiSIGN_C=DRAB:DU
n=USV+AnVIS+GApRAMAnNUKTAnSIDDHAMiD=DAjOUBL;D=DAiSEP+ATOR_DOTsB+iREPETITI@_M+K-1y2y3i~^OF_TEXT_M+K
iSECTI@_M+K$TRID~T_=^U-SHAPE^ORNAM~TSyH_TRID~T_=^DOTTE^CRESC~TSyH_RAYS_=^DOTTE^CRESC~TS
yH_RAYS_=^DOTTE^DOUBL;CRESC~TSyH_RAYS_=^DOTTE^TRIPL;CRESC~TSvDOUBL;R:GyBL;R:G$RAYS
vWITH_DOUBL;CRESC~TSyH_TRIPL;CRESC~TSyH_QUADRUPL;CRESC~TSyH>EPTUPL;CRESC~TSyH_CIRC|S_=^RAYS
yH_CIRC|S_=^TWO_~CLOSURESyH_CIRC|S_=^FOUR_~CLOSURESi|TT,_THREE-CIRCL;&T,NAT;IqWO-CIRCL;&T,NAT;I
y;&T,NAT;IIp&T,NAT;UiVOWEL>IGN_&T,NAT;UyNAT;UUz11600aMODI_|TT,_AnAmInImUnUmVOC&IC_RvRuLvLmEmAImOmAU
mKAnHAmGAnHAmNGAmCAnHAmJAnHAmNYAmTTAoHAmDDAoHAmNNAmTAnHAmDAnHAmNAmPAnHAmBAnHAmMAmYAmRAmLAmVAmSHAnSA
nAmHAmLLAfVOWEL>IGN_AAqIrIqUrUqVOC&IC_RyRRyLyLLqEqAIqOqAUfSIGN_=USV+AkVIS+GAmRAMAk+DHAC=DRAfD=DA
gOUBL;D=DAfABBREVIATI@>IGNfSIGN_HUVAz11650fDIGIT_Z,Ol@ElTWOmHREElFOURmIVElSIXmEV~lE.lN:E
z11660cNGOLI=_BIRGA$ORNAM~TkROTATE^BIRGAkDOUBL;BIRGA$ORNAM~TkTRIPL;BIRGA$ORNAM~TkBIRGA$DOUBL;ORNAM~T
kROTATE^BIRGA$ORNAM~TyWITH_DOUBL;ORNAM~Tk:V,TE^BIRGAy$DOUBL;ORNAM~TkSWIRL_BIRGAv$ORNAM~T
yTH_DOUBL;ORNAM~TkTURNED>WIRL_BIRGA$DOUBL;ORNAM~Tz11680aTAKRI_|TT,_AoAnIoInUoUnEnAInOnAUnKAoHAnGAoHA
nNGAnCAoHAnJAoHAnNYAnTTApHAnDDApHAnNNAnTAoHAnDAoHAnNAnPAoHAnBAoHAnMAnYAnRAnLAnVAnSHAoAnHAnRRA
gSIGN_=USV+AlVIS+GAgVOWEL>IGN_AArIsIrUsUrErAIrOrAUgSIGN_VIRAMAlNUKTAg|TT,_+CHAIC_KHAgABBREVIATI@>IGN
z116C0gDIGIT_Z,Om@EmTWOnHREEmFOURnIVEmSIXnEV~mE.mN:Ez11700aAHOM_|TT,_KAnHAmNGAnAmTAm&T,NAT;TAmPAnHA
mBAmMAmJAmCHAmTHAmRAmLAmSAmNYAmHAmAmDAnHAmGAm&T,NAT;GAmGHAmBHAmJHAm&T,NAT;BA
z1171DfC@S@=T>IGN_MEDI&_LAy&_RAy&_LIGAT:G_RAfVOWEL>IGN_ArAqIrIqUrUqEqAWqOqAIrMfSIGN_KILL,
z11730fDIGIT_Z,Ol@ElTWOmHREElFOURmIVElSIXmEV~lE.lN:EfNUMB,_T~nW~TYfSIGN>M&L>ECTI@lECTI@kRULAI
gYMBOL_VIf|TT,_CAmTTAoHAmDDAoHAmNNAmLLAz11800aDOGRA_|TT,_AoAnIoInUoUnEnAInOnAUnKAoHAnGAoHAnNGAnCAoHA
nJAoHAnNYAnTTApHAnDDApHAnNNAnTAoHAnDAoHAnNAnPAoHAnBAoHAnMAnYAnRAnLAnVAnSHAoSAoAnHAnRRAgVOWEL>IGN_AA
rIsIrUsUrVOC&IC_Ry_RRrErAIrOrAUgSIGN_=USV+AlVIS+GAnRAMAlNUKTAgABBREVIATI@>IGNz118A0aW+=G_CITI_%!NGAA
y,_Ay,_WIy,_YUy,_YAy,_YOy,_IIy,_UUy,_Ey,_Oy,_=Gy,_GAy,_KOy,_~Yy,_YUJy,_UCy,_~Ny,_ODDy,_TTEy,_NUNG
y,_DAy,_ATy,_AMy,_BUy,_PUy,_HIYOy,_HOLOy,_HORRy,_H+y,>SUUy,>IIy,_VIYOmSM&!NGAAy_Ay_WIy_YUy_YAy_YO
y_IIy_UUy_Ey_Oy_=Gy_GAy_KOy_~Yy_YUJy_UCy_~Ny_ODDy_TTEy_NUNGy_DAy_ATy_AMy_BUy_PUy_HIYOy_HOLOy_HORR
y_H+y>SUUy>IIy_VIYOmDIGIT_Z,Os@EsTWOtHREEsFOURtIVEsSIXtEV~sE.sN:EmNUMB,_T~uW~TYuHIRTYtFORTYuIFTY
tSIXTYuEV~TYtE.YtN:ETYz118FFmOMaDIVES_AKURU_|TT,_AuAtIuItUuUtEz11909tOz1190CtKAuHAtGAuHAtNGAtCAuHA
tJAz11915tNYAtTTAz11918tDDAvHAtNNAtTAuHAtDAuHAtNAtPAuHAtBAuHAtMAtYAuYAtRAtLAtVAtSHAuSAuAtHAtLLAtZA
mVOWEL>IGN_AAxIyIxUyUxEz11937xAIxOz1193BmSIGN_=USV+ArC=DRAB:DUrH&=TAmVIRAMAmPREFIXE^NAS&>IGN
mMEDI&_YAm:ITI&_RAmMEDI&_RAmSIGN_NUKTAmDOUBL;D=DAmGAP_FILL,m~^OF_TEXT_M+Kz11950mDIGIT_Z,Os@EsTWO
tHREEsFOURtIVEsSIXtEV~sE.sN:Ez119A0aN=D:AG+I_|TT,_AuAtIuItUuUtVOC&IC_RyIC_RRz119AAtEtAItOtAUtKAuHA
tGAuHAtNGAtCAuHAtJAuHAtNYAtTTAvHAtDDAvHAtNNAtTAuHAtDAuHAtNAtPAuHAtBAuHAtMAtYAtRAtLAtVAtSHAuSAuAtHA
tLLAtRRAmVOWEL>IGN_AAxIyIxUyUxVOC&IC_RyOC&IC_RRz119DAxExAIxOxAUmSIGN_=USV+ArVIS+GAtRAMArAVAGRAHA
rSIDDHAMmHEADSTROKEmVOWEL>IGN_PRISHTHAMATRA_Ez11A00aZ=ABAZ+>QU+;|TT,_ArVOWEL>IGN_IyIGN_UEyIGN_U
yIGN_EyIGN_OEyIGN_OyIGN_AIyIGN_AUyIGN_REV,SE^Ix|NGTH_M+Kr|TT,_KAyKHAyGAyGHAyNGAyCAyCHAyJAyNYAyTTA
yTTHAyDDAyDDHAyNNAyTAyTHAyDAyDHAyNAyPAyPHAyBAyBHAyMAyTSAyTSHAyDZAyDZHAyZHAyZAy-AyYAyRAyLAyVAySHAySSA
ySAyHAyKSSArF:&_C@S@=T_M+KrSIGN_VIRAMAwC=DRAB:DUyNDRAB:DU$ORNAM~TyNDRA$ORNAM~Tw=USV+AwVIS+GA
rCLUST,-:ITIA!RAy-F:A!YAy-F:A!RAy-F:A!LAy-F:A!VAr:ITI&_HEA^M+KrCLOS:G_HEA^M+KrM+K_TSHEGwSHAD
wDOUBL;SHADwL@G_TSHEGr:ITI&_DOUB|-L:E^HEA^M+KrCLOS:G_DOUB|-L:E^HEA^M+KrSUBJO:,z11A50aSOYOMBO_|TT,_A
iVOWEL>IGN_ItUEutEtOuEtAIuUtVOC&IC_RyIC_Lo|NGTH_M+Ki|TT,_KAqHApGAqHApNGApCAqHApJAqHApNYApTTArHApDDA
rHApNNApTAqHApDAqHApNApPAqHApBAqHApMApTSArHApDZApZHAqAp-ApYApRApLApVApSHAqSAqApHApKSSA
iSIGN_JIHVAMULIYAnUPADHM=IYAiCLUST,-:ITIA!RAy|TT,_LAy|TT,>HAy|TT,>AiF:&_C@S@=T>IGN_GySIGN_KySIGN_NG
ySIGN_DySIGN_NySIGN_BySIGN_MySIGN_RySIGN_LySIGN>HySIGN>ySIGN_-AiSIGN_=USV+AnVIS+GAiGEM:ATI@_M+K
iSUBJO:,iM+K_TSHEGnSHADnDOUBL;SHADnPLUTAiHEA^M+K$MO@_=D>UN_=^TRIPL;FLAMEyO@_=D>UN_=^FLAMEyO@_=D>UN
iT,M:&_M+K-1w2z11AB0aC=ADI=>YLLABICS_NATTILIK_HIyLIK_HIIyLIK_HOyLIK_HOOyLIK_HAyLIK_HAAyLIK>HRI
yLIK>HRIIyLIK>HROyLIK>HROOyLIK>HRAyLIK>HRAAtSPEvIvOvAaPAU_C:_HAU_|TT,_PAtKAtLAtMAtDAtZAtVAtNGAtHAtGA
tKHAtSAtBAtCAtTAuHAtNAtPHAtRAtFAtCHAtAtEtItOtUuAtIAtF:&_Py_Ky_Ty_My_Ny_Ly_Wy_NGy_YmRIS:G_T@;L@Gx
mS=DHI_GLOTT&>TOPmRIS:G_T@;L@G_F:&yF:&mS=DHI_GLOTT&>TOP_F:&tT@;L@Gxx_L@G_F:&yF:&mMID-|VEL_T@E
mGLOTT&>TOP_V+I=TmMID-|VEL_T@;L@G_F:&yN;F:&mLOW-F&L:G_T@;L@GyT@EmGLOTT&>TOPmLOW-F&L:G_T@;L@G_F:&
yT@;F:&mGLOTT&>TOP_F:&z11C00aBHAIKSUKI_|TT,_AsArIsIrUsUrVOC&IC_Ry_RRy_Lz11C0ArErAIrOrAUrKAsHArGAsHA
rNGArCAsHArJAsHArNYArTTAtHArDDAtHArNNArTAsHArDAsHArNArPAsHArBAsHArMArYArRArLArVArSHAsSAsArHA
kVOWEL>IGN_AAvIwIvUwUvVOC&IC_Ry&IC_RRy&IC_Lz11C38vEvAIvOvAUkSIGN_C=DRAB:DUp=USV+ApVIS+GArRAMA
pAVAGRAHAkD=DAlOUBL;D=DAkWORD>EP+ATORkGAP_FILL,-1v2z11C50kDIGIT_Z,Oq@EqTWOrHREEqFOURrIVEqSIXrEV~qE.
qN:EkNUMB,_@ErTWOsHREErFOURsIVErSIXsEV~rE.rN:ErT~sW~TYsHIRTYrFORTYsIFTYrSIXTYsEV~TYrE.YrN:ETY
kHUNDREDS_UNIT_M+Kz11C70aM+CH~_HEA^M+KiM+K>HADi|TT,_KAqHApGApNGApCAqHApJApNYApTAqHApDApNApPAqHApBA
pMApTSArHApDZApWApZHAqAp-ApYApRApLApSHAqApHApAz11C92iSUBJO:E^|TT,_KAy_KHAy_GAy_NGAy_CAy_CHAy_JAy_NYA
y_TAy_THAy_DAy_NAy_PAy_PHAy_BAy_MAy_TSAy_TSHAy_DZAy_WAy_ZHAy_ZAz11CA9y_YAy_RAy_LAy>HAy>Ay_HAy_A
iVOWEL>IGN_AAtItUtEtOiSIGN_=USV+AnC=DRAB:DUz11D00cS+AM_G@DI_|TT,_AwAvIwIvUwUvEz11D08vAIvOz11D0BvAU
vKAwHAvGAwHAvNGAvCAwHAvJAwHAvNYAvTTAxHAvDDAxHAvNNAvTAwHAvDAwHAvNAvPAwHAvBAwHAvMAvYAvRAvLAvVAvSHAwSA
wAvHAvLLAvKSSAvJNYAvTRAoVOWEL>IGN_AAy_Iy_IIy_Uy_UUy_VOC&IC_Rz11D3Ay_Ez11D3Cy_AIy_Oz11D3Fy_AU
oSIGN_=USV+AtVIS+GAtNUKTAtC=DRAtH&=TAoVIRAMAoREPHApA-K+Az11D50oDIGIT_Z,Ou@EuTWOvHREEuFOURvIVEuSIX
vEV~uE.uN:Ez11D60aGUNJ&A_G@DI_|TT,_AwAvIwIvUwUz11D67vEEvAIz11D6AvOOvAUvYAvVAvBAwHAvMAvKAwHAvTAwHAvLA
vGAwHAvDAwHAvNAvCAwHAvTTAxHAvLLAvJAwHAvDDAxHAvNGAvPAwHAvHAvRAvSAoVOWEL>IGN_AAy_Iy_IIy_Uy_UU
z11D90y_EEy_AIz11D93y_OOy_AUoSIGN_=USV+AtVIS+GAoVIRAMAoOMz11DA0oDIGIT_Z,Ou@EuTWOvHREEuFOURvIVEuSIX
vEV~uE.uN:Ez11EE0aMAKAS+_|TT,_KApGApNGApPApBApMApTApDApNApCApJApNYApYApRApLApVApSApAi=GKA
iVOWEL>IGN_ItUtEtOiPASSIMB=Gi~^OF>ECTI@z11FB0aLISU_|TT,_YHA
z11FC0aTAMIL_FRACTI@_@;THREE-HUNDRED-=D-TW~TIETHt@E-HUNDRED-=D-SIXTIETHtE.IETHtSIXTY-FOURTHtFORTIETH
tTHIRTY-SEC@DpTHRE;E.IETHSvSIXTY-FOURTHSp@;TW~TIETHtSIXTE~TH-1y~TH-2tT~THtE.HpTHRE;TW~TIETHS
vSIXTE~THSp@;FIFTHtQU+T,tH&F-1y2pTHRE;QU+T,SpDOWNSC&:G_FACTOR_KIIZHgSIGN_NELlCEVITUlAAZHAAKKU
lUZHAKKUlMUUVUZHAKKUlKURUNIlPATHAKKUlMUKKURUNIlKAACUlP=AMm@lV+AAK=lPA+AMlKUZHIlVELI
gWET_CULTIVATI@>IGNgDRY_CULTIVATI@>IGNgL=D>IGNgS&T_P=>IGNgTRADITI@&_CREDIT>IGNsNUMB,>IGNgCURR~T>IGN
g=^ODD>IGNgSP~T>IGNgTOT&>IGNg:_POSSESSI@>IGNgST+T:G_FROM>IGNhIGN_MUTH&IYAlVAKAIY+AA
z11FFFgPUNCTUATI@_~^OF_TEXTaCUNEIFORM>IGN_Aq_TIMES_AxBADxG=2_T~UxHAxIGIxLAG+_GUNUxMUSHxSAGq2qB
r_TIMES_ASH2yDUN3_GUNUyG&yG=2_T~UyHAyIGI_GUNUyIM:yLAGABySHESHyU_PLUS_U_PLUS_UsGUNUr2s_TIMES_B&AG
y_G=2_T~Uy_M;PLUS_~y>HA3y_TAK4qDqKr_TIMES_,:2ySHITA_PLUS_GISHqLr_TIMES_&yDIM2yGISHyHAyKAD3yKIySHE
yUSHr=rEPHqM+t_TIMES>HEqNr_OV,_=sTHRE;TIMESsPLUS_NAGA_OPPOS:G_=_PLUS_NAGAyAGA>QU+EDrSHEqP:qRAD
t_TIMES_KURrKABqS&2rHs_ZIDA_T~UtKABA_T~UtOV,_ASH_TUG2_OV,_TUG2_TUG2_OV,_TUG2_PAPyASH_OV,_ASH
yASH_OV,_ASH_CROSS:G_ASH_OV,_ASH_OV,_ASHs2sGABpBArDrG3rH+2rLs_OV,_B&sAGrRsA2qIr_TIMES_AyG+yIGI_GUNU
qUr_OV,_BU_AByU_UNsCROSS:G_BUrLUGu_OV,_BULUGrRs2pDArGs_KISIM5_TIMES_A_PLUS_MASHy5_TIMES_AM+
y5_TIMES_B&AGy5_TIMES_BIy5_TIMES_GAy5_TIMES_GA_PLUS_MASHy5_TIMES_GIy5_TIMES_GIR2y5_TIMES_GUD
y5_TIMES_HAy5_TIMES_IRy5_TIMES_IR_PLUS_LUy5_TIMES_KAKy5_TIMES_LAy5_TIMES_LUy5_TIMES_LU_PLUS_MASH2
y5_TIMES_LUMy5_TIMES_NEy5_TIMES_PAP_PLUS_PAPy5_TIMES>Iy5_TIMES_TAK4y5_TIMES_U2_PLUS_GIR2y5_TIMES_USH
rMrRsA3t4qIrBrMs_TIMES>HEs2rNs_KASK&_U_GUNU_DISHrSHqUr_OV,_DUsGUNUsSHESHIGrBs_TIMES_ESH2s2rGsUDrHrN
s3t_GUNUy_GUNUs4rR2pEq_TIMES_PAPrOV,_;NUN_OV,_NUNq2r_TIMES_A_PLUS_HA_PLUS_DAyG+yMIyS&ySHEyUqD:qGIRqL
qNr_TIMES_G=2yG=2_T~UyMEsCROSS:G_~sOPPOS:G_~sSQU+EDqR~r:2qSH2qZ~t_TIMES_AyS_A_PLUS_L&
yS_A_PLUS_L&_TIMES_L&yS_=yS_BADyS_DUN3_GUNUyS_DUN3_GUNU_GUNUyS_HAyS_HA_GUNUyS_IGI_GUNUyS_KASK&
yS_KASK&>QU+EDyS_KU3yS_LAyS_L&_TIMES_L&yS_LIyS_LUyS_U2yS_UDpGAr_GUNUr2s_TIMES_A_PLUS_DA_PLUS_HA
y_A_PLUS_HAy_A_PLUS_IGIy_AB2_T~U_PLUS_TABy_=y_ASHy_ASH2_PLUS_G&y_BADy_B+_PLUS_RAy_BURy_BUR_PLUS_RA
y_DAy_DIy_DIM_TIMES>HEy_DUBy_ELy_EL_PLUS_LAy_~y_~_TIMES_G=2_T~Uy_G=2_T~Uy_G+y_GIy_GI4y_GI4_PLUS_A
y_GIR2_PLUS>Uy_HA_PLUS_LU_PLUS_ESH2y_H&y_H&_PLUS_LAy_HI_PLUS_LIy_HUB2y_IGI_GUNU
y_ISH_PLUS_HU_PLUS_ASHy_KAKy_KASK&y_KIDy_KI^PLUS_L&y_KU3_PLUS_=y_LAy_M;PLUS_~y_MIy_NUNy_NUN_OV,_NUN
y_PAy>&y>+y>HEy>H;PLUS_TURy>HIDy>UMy_TAK4y_Uy_UDy_U^PLUS_DUtOV,_GA2rBAt_CROSS:G_GABArD
s_OV,_GA^G+_OV,_G+rLs_GA^OV,_GA^G+_OV,_G+sAMrMrNs2t_T~UuOV,_G=2uCROSS:G_G=2rRs3rSH=qESHT:w_TIMES_KUR
qIr_TIMES_EyUsCROSS:G_GIr4s_OV,_GI4tCROSS:G_GI4rDIMrR2t_GUNUs3t_TIMES_A_PLUS_IGIyS_G=2_T~UyS_IGI
yS_LU_PLUS_IGIyS_PArS&sHt_CROSS:G_GISHuTIMES_BADyS_TAK4v~UqUr_CROSS:G_GUr2s_TIMES_KAK
y_KAK_TIMES_IGI_GUNUy_NUNy>&_PLUS_TUG2tGUNUrDs_TIMES_A_PLUS_KURy_KURtOV,_GU^LUG&rLrMs_TIMES>HErRs7
sUNtSHpHAr_T~UsGUNUrLqIr_TIMES_ASHyASH2yBADyDISHyGADyK:yNUNySHEyUqUrB2t_TIMES_=yS_H&yS_KASK&yS_LISH
yS_UDrL2pIq_AqBqDIMt_OV,_IDIM_BURy_IDIM>QU+EDqGrIs_DIBtRItOV,_IGI>HIR_OV,>HIR_U^OV,_UDtGUNUqL
r_TIMES_G=2_T~Ur2qMr_TIMES_TAK4sCROSS:G_IMsOPPOS:G_IMsSQU+EDr:qNqRqSHpKAr_TIMES_AyADyA^PLUS_KU3yASH2
yBADyB&AGyB+yBIy,:2yESH2yGAyG&yG=2_T~UyG+yG+_PLUS>HA3_PLUS_AyGIyGIR2yGISH_PLUS>+yGISH_CROSS:G_GISH
yGUyGUR7yIGIyIMyKAKyKIyKIDyLIyLUyMEyM;PLUS_DUyM;PLUS_GIyM;PLUS_TEyMIyMI_PLUS_NUNUZyNEyNUNyPIyRUySA
yS+ySHAySHEySHIDySHUySIGySUHURyT+yUyU2yUDyUMUM_TIMES_PAyUSHyZIr2s_CROSS:G_KA2rBrD2s3s4s5t_OV,_KAD5rK
s_TIMES_IGI_GUNUrLs_TIMES_BADtCROSS:G_K&rM2s4rSK&v_LAGAB_TIMES_U_OV,_LAGAB_TIMES_U
wOV,_KASK&_LAGAB_TIMES_U_OV,_LAGAB_TIMES_UqESH2qIr_TIMES_BADyUyUDrDrNrS&sHsIM5v_OV,_KISIM5qU
r_OV,_HI_TIMES_ASH2_KU_OV,_HI_TIMES_ASH2r3r4s_V+I=T<r7rLs_GUNUrNrRs_OPPOS:G_KURrSHU2qWU318pLArGAB
u_TIMES_AyES_A_PLUS_DA_PLUS_HAyES_A_PLUS_G+yES_A_PLUS_L&yES_&yES_=yES_ASH_ZIDA_T~UyES_BADyES_BI
yES_D+yES_~yES_GAyES_G+yES_GUDyES_GU^PLUS_GUDyES_HAyES_H&yES_HI_TIMES_NUNyES_IGI_GUNUyES_IM
yES_IM_PLUS_HAyES_IM_PLUS_LUyES_KIyES_K:yES_KU3yES_KULyES_KUL_PLUS_HI_PLUS_AyES_LAGAByES_LISHyES_LU
yES_LULyES_MEyES_M;PLUS_~yES_MUSHyES_NEyES>H;PLUS>UMyES>HITA_PLUS_GISH_PLUS_,:2
yES>HITA_PLUS_GISH_T~UyES>HU2yES>HU2_PLUS>HU2yES>UMyES_TAGyES_TAK4yES_T;PLUS_A_PLUS>U_PLUS_NAyES_U
yES_U_PLUS_AyES_U_PLUS_U_PLUS_UyES_U2_PLUS_ASHyES_UDyES_USHvSQU+EDtRu_TIMES>HEyES>H;PLUS>UMvGUNU
yU_OV,_LAG+_GUNU>HErHSHUrLs_TIMES_L&rMs_TIMES_KURy_KUR_PLUS_RUqIrLrMMU2rSHqUr_TIMES_BADr2s_TIMES_&
y_BADy_ESH2y_ESH2_T~Uy_G=2_T~Uy_HI_TIMES_BADy_IMy_KAD2y_KAD3y_KAD3_PLUS_ASHy_KIy_LA_PLUS_ASHy_LAGAB
y_M;PLUS_~y_NEy_NUy>I_PLUS_ASHy>IK2_PLUS_BUy_TUG2u~UtCROSS:G_LU2tOPPOS:G_LU2tSQU+EDuHESHIGr3rG&
u_OV,_LUG&wPPOS:G_LUG&vSHESHIGrHrLrMs_OV,_LUMyLUM_G+_OV,_G+pMAr_TIMES_TAK4sGUNUr2rHrRrSHt2qErSqIrNqU
r_OV,_MUrGs_GUNUrNSUBrRGU2rSHt_TIMES_AyS_KURyS_ZAuOV,_MUSHy_MUSH_TIMES_A_PLUS_NAuCROSS:G_MUSHt3
u_TIMES_AyES_A_PLUS_DIyES_DIvGUNUpNAr2rGAt_:V,TEDuTIMES>HU_T~UuOPPOS:G_NAGAtRrM_NUTILLUss2qE
r_TIMES_AyUDsSHESHIGqIr_TIMES_Er2rMs_TIMES_G=2_T~Uy_G+_PLUS_G=2_T~UrNDA2v_TIMES_=yMES_ASH
yMES_ASH_PLUS_ASHyMES_GUDyMES_M;PLUS_G=2_T~UyMES_NEyMES_NUNyMES>HEyMES>H;PLUS_A_=yMES>H;PLUS_ASH
yMES>H;PLUS_ASH_PLUS_ASHyMES_U2_PLUS_ASHyMES_USHrSAGqUr11rNs_LAG+_TIMES_G+y_TIMES_MASHy_TIMES>&
y_TIMES>&_OV,_NUN_LAG+_TIMES>&y_TIMES_USHtT~UtOV,_NUNtCROSS:G_NUNy:G_NUN_LAG+_OV,_LAG+sUZ
u_AB2_TIMES_ASHGABy_TIMES_BIy_TIMES_DUGy_TIMES_GUDy_TIMES_IGI_GUNUy_TIMES_KAD3y_TIMES_LAy_TIMES_NE
y_TIMES>ILA3y_TIMES_U2vKISIM5_TIMES_BIyIM5_TIMES_BI_UpPArDrNrPqESH2qIr_TIMES_AyAByBIyBUyEyIyIByUyU2
sCROSS:G_PIrRIGu_TIMES_K&yES_UDyES_ZAvOPPOS:G_PIRIGpRArBqIqUpSArG_NUTILLUss_TIMES_Ay_DUy_DUBy_HA
y_KAKy_KURy_LUMy_MIy_NUNy>&y>HIDy_TABy_U2y_UBy_UMy_URy_USHtOV,>AGtGUNUrLs_LAGAB_TIMES_ASH2rNGA2rRqHA
s3t_TIMES_AyS_BADyS_GISHyS_NEyS>HU2yS_TURyS_UyS_U_PLUS_As6sB6sR2rEs_HUtOV,>H;GA^OV,_GA^G+_OV,_G+
ySH;TAB_OV,_TAB_G+_OV,_G+sG9sNsSHu2uLAMrIDt_TIMES_AyS_IMsMt_TIMES_AyS_B&yS_BULUGyS_D:yS_G+yS_IGI
yS_IGI_GUNUyS_KUSHU2yS_LULyS_MUGyS>&sNIGsRt_T~UuOV,>HIR_BUR_OV,_BURsTArUs_OV,_:V,TED>HUs2sBURqI
r_GUNUrGs4t_OV,>IG4>HU2rK2rLA3qUr_OV,>UrDs2rHURrMsASHrRs9pTAr_AST,ISKsTIMES_HIyMIsGUNUrB
s_OV,_TAB_NI_OV,_NI_DISH_OV,_DISHtSQU+EDrGs_TIMES_BIy_GUDy>HEy>HUy_TUG2y_UDrK4rRqEr_GUNUqIr_T~UrLrR
s_TIMES_TAK4tOV,_TIRyTIR_GA^OV,_GA^G+_OV,_G+qUrG2rKrMrRs_OV,_TUR_ZA_OV,_ZApUq_GUDrU_U
rOV,_U_PA_OV,_PA_G+_OV,_G+ySUR_OV,>URyU_REV,SE^OV,_U_REV,SEDq2qBqDr_KUSHU2sTIMES_BADyMI
yU_PLUS_U_PLUS_UyU_PLUS_U_PLUS_U_GUNUsGUNUsSHESHIGyG_TIMES_BADrUGqMr_TIMES_LAGAByM;PLUS_DAySHA3yUrB:
rUMt_TIMES_KASK&yS_PAqNr_GUNUqRr_CROSS:G_URsSHESHIGr2s_TIMES_A_PLUS_HAy_A_PLUS_NAy_&y_HAy_NUNy_U2
y_U2_PLUS_ASHy_U2_PLUS_BIr4rIs3rUs_TIMES_Ay_ASHGABy_B+y_DUNy_GAy_G&y_G=2_T~Uy_G+y_GUy_HAy_IGIy_IM
y_ISHy_KIy_LUMy_M:y_PAy>HEy>IG4y_TUy_U_PLUS_GUDy_UDy_URUDAsDAu_TIMES_UqSHs_TIMES_Ay_KUy_KURy_TAK4sX
s2sUMXqTUKIqZ3s_TIMES_KASK&rUpZAr_T~UsSQU+E^TIMES_KURrGrMXqE2qIr_OV,_ZIr3rBs_KABA_T~UrGrZ2qUr5
s_TIMES_ArBURrMpKAP_ELAMITEpAB_TIMES_NUNr2_TIMES_AqM+_TIMES_KUGpDAG_KISIM5_TIMES_U2_PLUS_MASHs3
qISH_PLUS>HUqUB_TIMES>HEpEZ~_TIMES_GUDyS>HEpGA2_TIMES_=_PLUS_KAK_PLUS_Ay_ASH2qE22qIGpHUSH
pKA_TIMES_=SHEyASH3yGISHyGUDyHI_TIMES_ASH2yLUMyPAySHULyTUyUR2pLAGAB_TIMES_GIqU2>HESHIG_TIMES_BAD
tTIMES_ESH2_PLUS_L&y>HUpMESHqUSH3_TIMES_ZApNA4q:s9sDA2_TIMES_B&yMES_GIqU11_ROTATE^N:ETY_DEGREES
pPESH2_AST,ISKqIR2pSAG_TIMES_IGI_GUNUpTI2pUM_TIMES_MEq_Uz12400kNUM,IC>IGN_TWO_ASHyHRE;ASHxFOUR_ASH
yIV;ASHxSIX_ASHyEV~_ASHxE._ASHxN:;ASHxTHRE;DISHxFOUR_DISHyIV;DISHxSIX_DISHyEV~_DISHxE._DISHxN:;DISH
xFOUR_UyIV;UxSIX_UyEV~_UxE._UxN:;Ux@;GESH2xTWO_GESH2yHRE;GESH2xFOUR_GESH2yIV;GESH2xSIX_GESH2
yEV~_GESH2xE._GESH2xN:;GESH2x@;GESHUxTWO_GESHUyHRE;GESHUxFOUR_GESHUyIV;GESHUxTWO>H+2yHRE;SH+2
yHRE;SH+2_V+I=T<xFOUR>H+2yIV;SH+2xSIX>H+2yEV~>H+2xE.>H+2xN:;SH+2x@;SH+UxTWO>H+UyHRE;SH+U
yHRE;SH+U_V+I=T<xFOUR>H+UyIV;SH+UxSH+2_TIMES_G&_PLUS_DISHyH+2_TIMES_G&_PLUS_M:x@;BURUxTWO_BURU
yHRE;BURUyHRE;BURU_V+I=T<xFOUR_BURUyIV;BURUxTHRE;V+I=T<_ESH16yHRE;V+I=T<_ESH21xFOUR_V+I=T<_LIMMU
yOUR_V+I=T<_LIMMU4yOUR_V+I=T<_LIMMU_AyOUR_V+I=T<_LIMMU_BxSIX_V+I=T<_ASH9yEV~_V+I=T<_IM:3
yEV~_V+I=T<_IM:_AyEV~_V+I=T<_IM:_BxE._V+I=T<_USSUy._V+I=T<_USSU3xN:;V+I=T<_ILIMMUy:;V+I=T<_ILIMMU3
y:;V+I=T<_ILIMMU4y:;V+I=T<_ILIMMU_AxTWO_ASH_T~UyHRE;ASH_T~UxFOUR_ASH_T~UyIV;ASH_T~UxSIX_ASH_T~U
x@;B=2xTWO_B=2yHRE;B=2xFOUR_B=2yOUR_B=2_V+I=T<yIV;B=2yIV;B=2_V+I=T<xNIGIDAM:yIGIDAESHx@;ESHE3
xTWO_ESHE3x@;THIR^DISHxTWO_THIRDS_DISHxFIV;SIXTHS_DISHx@;THIR^V+I=T<_AxTWO_THIRDS_V+I=T<_Ax@;E.H_ASH
yN;QU+T,_ASHyL^ASSYRI=_@;SIXTHyL^ASSYRI=_@;QU+T,yN;QU+T,_GURyN;H&F_GURxELAMIT;@;THIRD
yLAMIT;TWO_THIRDSyLAMIT;FORTYyLAMIT;FIFTYxFOUR_U_V+I=T<yIV;U_V+I=T<xSIX_U_V+I=T<yEV~_U_V+I=T<
xE._U_V+I=T<xN:;U_V+I=T<z12470kPUNCTUATI@>IGN_OL^ASSYRI=_WOR^DIVID,yGN_V,TIC&_COL@yGN_DIAG@&_COL@
yGN_DIAG@&_TRICOL@yGN_DIAG@&_QUADCOL@z12480kSIGN_AB_TIMES_NUN_T~UySHU2q^TIMES_ESH2pBA^TIMES_DISH_T~U
rH+2_TIMES_AB2yMES_NIyMES_ZAqU_OV,_BU_TIMES_NA2pDA_TIMES_TAK4rG_TIMES_KURqIM_TIMES_IGIy_U_U_U
s2_TIMES_UDqUG_TIMES_=SHEy_ASHy_ASH_AT_|FTy_D:y_DUNy_,:2y_GAy_GIy_GIR2_GUNUy_GISHy_HAy_HIy_IGI_GUNU
y_KASK&y_KURy_KUSHU2y_KUSHU2_PLUS_KASK&y_LAK-020y_LAMy_LAM_TIMES_KURy_LUH_PLUS_GISHy_MASHy_MESy_MI
y_NIy_PIy>HEy>I_GUNUpE2_TIMES_KURyPAPqR:2_XqSH2_CROSS:G_ESH2qZ~>HESHIG_TIMES_ASHyHIG_TIMES_HI
yHIG_TIMES_IGI_GUNUyHIG_TIMES_LAyHIG_TIMES_L&yHIG_TIMES_MEyHIG_TIMES_MESyHIG_TIMES>UuTIMES>U
pGA2_TIMES_BAH+2y_DIM_GUNUy_DUG_TIMES_IGI_GUNUy_DUG_TIMES_KASK&y_,~y_GAy_G+_PLUS_DIy_G+_PLUS_NE
y_HA_PLUS_Ay_KUSHU2_PLUS_KASK&y_LAMy_LAM_TIMES_KURy_LUHy_MUSHy_NEy_N;PLUS_E2y_N;PLUS_GIy>HIMy_ZIZ2
rBA_ROTATE^N:ETY_DEGREESqESHT:_TIMES_UqISH_TIMES_GISH_CROSS:G_GISHqU2_TIMES_IGI_GUNU
r^PLUS_GISH_TIMES_TAK4pHA_T~U_GUNUqI_TIMES_ASH_OV,_HI_TIMES_ASHpKA_TIMES_BUyKAyU_U_UyUR
pLAGAB_TIMES_ZU_OV,_ZUrK-003u21v5u30u50v1u62u79_OV,_LAK-079_GUNUu80v1_OV,_LAK-081u92t130u42t210v9u20
v5v8u38u65v6t343v7v8u83v4u90t441v9w_TIMES_GUyIMES_IGIyIMES_PAP_PLUS_LU3yIMES_PAP_PLUS_PAP_PLUS_LU3
yIMES_U2_PLUS_BAu50v7u70u83u90v2v3v5t550t608u17w_TIMES_ASHyIMES_BADyIMES_DUN3_GUNU_GUNUyIMES_KU3
yIMES_LAyIMES_T+yIMES_TEyIMES_U2yIMES_UDyIMES_URUDAu36u48w_TIMES_DUByIMES_GAyIMES_IGIyIMES_IGI_GUNU
yIMES_NIyIMES_PAP_PLUS_PAP_PLUS_LU3yIMES>HESH_PLUS_KIyIMES_UDyIMES_URUDAt724u49qU2_GUNU_TIMES_ASH
tTIMES_DISHy_H&y_PAPy_PAP_PLUS_PAP_PLUS_LU3y_TAK4pMI_PLUS_ZA7qUSH_OV,_MUSH_TIMES_GAy_MUSH_TIMES_KAK
pN:DA2_TIMES_DIM_GUNUyMES_GISHyMES_GULyMES_HIyMES_KESH2yMES_LAK-050yMES_MASHyMES_PAP_PLUS_PAPyMES_U
yMES_U_PLUS_UyMES_URUDApSAG_GUNU_TIMES_HAtTIMES_~y>H;AT_|FTy_TAK4qHA6_T~Ur;OV,>HEtPLUS_HUB2yNAM2yS+
rU2_PLUS_DUG_TIMES_NIy_E2_TIMES_=qI_TIMES_TAK4pTAK4_PLUS>AGqUM_TIMES_G=2_T~Uy_THRE;DISHpUR2_:V,TED
tTIMES_UDrU_TIMES_D+A3y_LAK-668y_LU3pZA7qU_OV,_ZU_PLUS>+r5_TIMES_THRE;DISH_T~U
z12F90bYPRO-M:O=>IGN_CM001w2w4w5w6w7w8w9v10w1w2xBw3w5w7w9v21w3w4w5w6w7w8w9v30w3w4w5w6w7w8w9v40w1w4w6
w7w9v50w1w2w3w4w5w6w8w9v60w1w2w3w4w6w7w8w9v70w1w2w3w4w5xBw6w8w9v80w1w2w3w4w5w6w7w8w9v90w1w2w4w5w6w7
w8w9u100w1w2w3w4w5w7w8w9v10w2w4u301w2z13000aEGYPTI=_HI,OGLYPH_A001x2x3x4x5yAx6yAyBx7x8x9w10x1x2x3x4
yAx5x6x7yAx8x9w20x1x2x3x4x5x6x7x8x9w30x1x2yAx3x4x5x6x7x8x9w40yAx1x2yAx3yAx4x5yAx6x7x8x9w50x1x2x3x4x5
x6x7x8x9w60x1x2x3x4x5x6x7x8x9w70uB001x2x3x4x5yAx6x7x8x9uC001x2yAyByCx3x4x5x6x7x8x9w10yAx1x2x3x4x5x6
x7x8x9w20x1x2x3x4uD001x2x3x4x5x6x7x8yAx9w10x1x2x3x4x5x6x7x8x9w20x1x2x3x4x5x6x7yAx8x9w30x1yAx2x3x4yA
x5x6x7x8x9w40x1x2x3x4x5x6yAx7x8yAx9w50yAyByCyDyEyFyGyHyIx1x2yAx3x4yAx5x6x7x8x9w60x1x2x3x4x5x6x7yAyB
yCyDyEyFyGyHuE001x2x3x4x5x6x7x8yAx9yAw10x1x2x3x4x5x6yAx7yAx8x9w20yAx1x2x3x4x5x6x7x8yAx9w30x1x2x3x4yA
x6x7x8uF001yAx2x3x4x5x6x7x8x9w10x1x2x3yAx4x5x6x7x8x9w20x1yAx2x3x4x5x6x7x8x9w30x1yAx2x3x4x5x6x7yAx8yA
x9w40x1x2x3x4x5yAx6yAx7yAx8x9w50x1yAyByCx2x3uG001x2x3x4x5x6yAx7yAyBx8x9w10x1yAx2x3x4x5x6x7x8x9w20yA
x1x2x3x4x5x6yAx7x8x9w30x1x2x3x4x5x6yAx7yAx8x9w40x1x2x3yAx4x5yAx6x7x8x9w50x1x2x3x4uH001x2x3x4x5x6yAx7
x8uI001x2x3x4x5yAx6x7x8x9yAw10yAx1yAx2x3x4x5uK001x2x3x4x5x6x7x8uL001x2yAx3x4x5x6yAx7x8uM001yAyBx2x3
yAx4x5x6x7x8x9w10yAx1x2yAyByCyDyEyFyGyHx3x4x5yAx6yAx7yAx8x9w20x1x2yAx3x4yAx5x6x7x8yAx9w30x1yAx2x3yA
yBx4x5x6x7x8x9w40yAx1x2x3x4uN001x2x3x4x5x6x7x8x9w10x1x2x3x4x5x6x7x8yAyBx9w20x1x2x3x4x5yAx6x7x8x9w30
x1x2x3yAx4yAx5yAx6x7yAx8x9w40x1x2vL001y2y3y4y5y5Ay6y7y8y9x10y1y2y3y4y5y6y7y7Ay8y9x20vU001y2y3y4y5y6
y7y8y9x10y0Ay1y1Ay2y3y4y5y6y7y8y8Ay9x20y1y2y2AuO001yAx2x3x4x5yAx6yAyByCyDyEyFx7x8x9w10yAyByCx1x2x3x4
x5x6x7x8x9yAw20yAx1x2x3x4yAx5yAx6x7x8x9yAw30yAx1x2x3yAx4x5x6yAyByCyDx7x8x9w40x1x2x3x4x5x6x7x8x9w50yA
yBx1uP001yAx2x3yAx4x5x6x7x8x9w10x1uQ001x2x3x4x5x6x7uR001x2yAx3yAyBx4x5x6x7x8x9w10yAx1x2x3x4x5x6yAx7
x8x9w20x1x2x3x4x5x6x7x8x9uS001x2yAx3x4x5x6yAx7x8x9w10x1x2x3x4yAyBx5x6x7yAx8x9w20x1x2x3x4x5x6yAyBx7x8
x9w30x1x2x3x4x5yAx6x7x8x9w40x1x2x3x4x5x6uT001x2x3yAx4x5x6x7yAx8yAx9yAw10x1yAx2x3x4x5x6yAx7x8x9w20x1
x2x3x4x5x6x7x8x9w30x1x2yAx3yAx4x5x6uU001x2x3x4x5x6yAyBx7x8x9w10x1x2x3x4x5x6x7x8x9w20x1x2x3yAx4x5x6x7
x8x9yAw30x1x2yAx3x4x5x6x7x8x9w40x1x2uV001yAyByCyDyEyFyGyHyIx2yAx3x4x5x6x7yAyBx8x9w10x1yAyByCx2yAyBx3
x4x5x6x7x8x9w20yAyByCyDyEyFyGyHyIyJyKyLx1x2x3yAx4x5x6x7x8yAx9yAw30yAx1yAx2x3yAx4x5x6x7yAx8x9w40yA
uW001x2x3yAx4x5x6x7x8x9yAw10yAx1x2x3x4yAx5x6x7yAx8yAx9w20x1x2x3x4yAx5uX001x2x3x4yAyBx5x6yAx7x8yA
uY001yAx2x3x4x5x6x7x8uZ001x2yAyByCyDx3yAyBx4yAx5yAx6x7x8x9w10x1x2x3x4x5yAyByCyDyEyFyGyHyIx6yAyByCyD
yEyFyGyHuAA001y2y3y4y5y6y7y7Ay7By8y9x10y1y2y3y4y5y6y7y8y9x20y1y2y3y4y5y6y7y8y9x30y1y2
z13430uV,TIC&_JO:,uHORIZ@T&_JO:,u:S,T_AT_TOP>T+TyRT_AT_BOTTOM>T+TyRT_AT_TOP_~DyRT_AT_BOTTOM_~D
uOV,LAY_MIDD|uBEG:>EGM~Tu~D>EGM~Tz14400a=ATOLI=_HI,OGLYPH_A001y2y3y4y5y6y7y8y9x10y0Ay1y2y3y4y5y6y7y8
y9x20y1y2y3y4y5y6y6Ay7y8y9x30y1y2y3y4y5y6y7y8y9y9Ax40y1y1Ay2y3y4y5y5Ay6y6Ay6By7y8y9x50y1y2y3y4y5y6y7
y8y9x60y1y2y3y4y5y6y6Ay6By6Cy7y8y9x70y1y2y3y4y5y6y7y8y9x80y1y2y3y4y5y6y7y8y9x90y1y2y3y4y5y6y7y7Ay8
y8Ay9w100y0Ay1y1Ay2y2Ay3y4y4Ay4By4Cy5y5Ay5By6y7y7Ay7By7Cy8y9x10y0Ay0By1y2y3y4y5y5Ay6y7y8y9x20y1y2y3
y4y5y5Ay6y7y8y9x30y1y2y3y4y5y5Ay6y7y8y9x40y1y2y3y4y5y6y7y8y9x50y1y2y3y4y5y6y7y8y9x60y1y2y3y4y5y6y7y8
y9x70y1y2y3y4y5y6y7y8y9x80y1y2y3y4y5y6y7y8y9x90y1y2y3y4y5y6y7y8y9w200y1y2y2Ay2By3y4y5y6y7y7Ay8y9y9A
x10y1y2y3y4y5y5Ay6y6Ay7y8y9x20y1y2y3y4y5y6y7y7Ay8y9x30y1y2y3y4y5y6y7y8y9x40y1y2y3y4y5y6y7y8y9x50y1y2
y3y4y5y6y7y8y9x60y1y2y3y4y5y6y7y7Ay8y9x70y1y2y3y4y5y6y7y8y9x80y1y2y3y4y5y6y7y8y9y9Ax90y1y2y3y4y4Ay5
y6y7y8y9y9Aw300y1y2y3y4y5y6y7y8y9y9Ax10y1y2y3y4y5y6y7y8y9x20y1y2y3y4y5y6y7y8y9y9Ax30y1y2Ay2By2Cy3y4
y5y6y6Ay6By6Cy7y8y9x40y1y2y3y4y5y6y7y8y9x50y1y2y3y4y5y6y7y8y9y9Ax60y1y2y3y4y4Ay5y6y7y8y8Ay9x70y1y1A
y2y3y4y5y6y7y8y9x80y1y1Ay2y3_RA_OR_RIy3Ay4y5y6y6Ay7y8y9x90y1y2y3_E.y4y5y6y7y8y9w400y1y2y3y4y5y6y7y8
y9x10_BEG:_LOGOGRAM_M+Ky0A_~^LOGOGRAM_M+Ky1y2y3y4y5y6y7y8y9x20y1y2y3y4y5y6y7y8y9x30y1y2y3y4y5y6y7y8
y9x40y1y2y3y4y5y6y7y8y9x50y0Ay1y2y3y4y5y6y7y7Ay8y9x60y1y2y3y4y5y6y7y8y9x70y1y2y3y4y5y6y7y8y9x80y1y2
y3y4y5y6y7y8y9x90y1y2y3y4y5y6y7w501y2y3y4y5y6y7y8y9x10y1y2y3y4y5y6y7y8y9x20y1y2y3y4y5y6y7y8y9x30
z16800aBAMUM_|TT,_PHASE-A_NGKU;MF@vGBIE;F@vP@_MF@_PIPAEMGBIEEy_MF@_PIPAEMBAvNAA_MF@vSHU~SHUET
vTITA_MF@vNZA_MF@vSH:DA_PA_NJIvP@_PA_NJI_PIPAEMGBIEEy_PA_NJI_PIPAEMBAvMAEMBGBIEEvTU_MAEMBAvNG=GU
vMAEMVEUXxNSUAEwVEUA~GAMvSEUNYAMvNTOQP~vKEUKEUTNDAvNK:DIvSUUvNGKU~ZEUMvLAPAQwET_KUTvNTAP_MFAA
vMAEKEUPvPASHAEvGHEUA,AEvPAMSHAEvM@_NGGEUAETvNZUN_MEUTvU_YUQ_NAEvGHEUAEGHEUAEvNTAP_NTAAvSISAvMGBASA
wEUNJOMNDEUQwOOMPUQvKAFAvPA_|,AEWAvNDA_|,AEWAvPETvMAEMKP~vNIKAvPUPvTUAEPvLUAEPvS@JAMvTEUTEUW~vMA~YI
vKETvNDA=GGEUAETvKUOQvMOOMEUTvSHUMvLOMMAEvFIRIvROMvKPOQvSOQvMAP_PIEETvSHIRAEvNTAPvSHOQ_NSHUT_YUM
vNYIT_M@GKEUAEQvPA+AEvNKA+AEvUNKNOWNvNGG~vMAESIvNJAMvMB=YIvNYETvTEUA~vSOTvPAAMvNSHIEEvMAEMvNYIvKAQ
vNSHAvVEEvLUvN~wAQvMBAQtB_NSHUETvTU_MAEMGBIEEvSIEEwET_TUvLOM_NTEUMvMBA_MAE|EvKIEEMvYEURAEvMBA+AEvKAM
vPEESHIvYAFU_|,AEWAvLAM_NSHUT_NYAMvNTIE;SHEUOQwDU_NJAAvGHEUGHEUAEMvPITvTU_NSIEEvSHET_NJAQyUAEQTU
vMF@_TEUAEQwBIT_MBAAKETvNYI_NTEUMvKEUPUQvGHEUGH~vKEUYEUXvLA=AEvP+UMvVEUMvNGK:DI_MVOPxGEU_MBUvWUAET
vSAKEUAEvTAAMvMEUQvNGGUOQyUOQ_L+GEvMFIYAQvSUEvMBEURIw@TIE~vNYAEMAEvPUNGAAMvMEUT_NGGEETvFEUXvMBUOQ
vFEEvKEUAEMvMA_NJEUA~AyNJUQAv|TvNGGAAMwS~vMAvKIQvNGOMtC_NGKU;MAEMBAwZAvYUMvW=GKUOQvNGG~wDEUA,EEwGKAQ
vGH+AEvMBEEKEETvGBAYIvNYIR_MKP+AQ_MEUNwTU_MBITvMBEUMvPIRIE~vNDOMBUvMBAA_CABBAGE-TREEvKEUSHEUAEPvGHAP
vKEUKAQvYU_MUOMAEvNZEUMvMBUEvNSEUA~vMBITvYEUQvKP+AQwAAvSEUXvNDIDAvTAASHAEvNJUEQvTITA_YUEvSUAET
vNGGUA~_NYAMvVEUXvN=S=AQvMA_KEUA,IvNTAAwGGU@vLAPvMBIRIE~wGBASAQvNTEUNGBAvTEUTEUXvNGGUMvFUEvNDEUTwSA
xHAQvBUNGvVEUAEP~vMB,AEvRUvNJAEMvLAMvTITUAEPvNSUOT_NGOMwJEEEEvKETvNGGUvMAESIwBUAEMvLUvKUTvNJAMwGOM
vWUPvNGGUEETwSOMwT~vKUOP_NKA+AEvNSUNwDAMvMA_NSIEEvYAAvNDAPvSHUEQwETF@vMBIwAEMBAwB=YIvKEUSEUXvMBEUX
vKEUMvMBAA_PICKETvYUWOQvNJEUXvMIEEwUAEvSHIQvK~_LAWy_FATIGUEvNGAQwAQvLIQvP:w~vTETt^MBUOvWAPvNJIvMF@
vNJIEEvLIEEvNJEUTwSHEEwGGAAMAEwYAMvWUA~vNGKUNvSHEEvNGKAPvKEUAETMEUNvTEUTvSHEUAEvNJAPvSUEvKETvYAEMMAE
vKUOMvSAPvMFEUTvNDEUXvM&E,IwEUTvSEUAEQvY~vNJEUAEMvKEUOT_MBUAEvNGKEURIvTUvGHAAvNGKYEEvFEUFEUAETvNDEE
vMGBOFUMv|UAEPvND@vM@IwGBEUNvPUUTvMGBIEEwFOvLUMvNSIEEPvMBAAvKWAETvNYETvTEUA~vSOTvYUWOQvKEUMvRAEM
vTEEEEvNGKEUAEQvMFEUAEvNSIEETvKEUPvPIPwEUTAEvNYUEv|TvNGGAAMvMFIEEvNGGWA~vYUOMvPAPvYUOPvNDAMwTEUM
vSUAEvKUNvNGGEUXxKIEEvTUOTvMEUNvKUQvNSUMvTEUNvMA~JETvNGGAPv|UMvNGGUOMwSHUTwJUEQvGHEUAEvKUvR~_OLDvTAE
wOQvNYIvRIIv|EEEvMEEEEwvSUUvMUvSHIIxEUXvKYEEvNUvSHUvNTEEvPEEvNIvSHOQvPUQvMVOPvLOQvR~_MUCHvTIvNTUU
vMBAA>EV~vSAQvFAAt;NDAPvTO@vMBEUMvLAPvVOMvLO@vPAAvSOMvRAQvNSHUOPwDUNvPUAEvTAMvNGKAvKPEUXvWUOvSEE
vNGGEUAETvPAAMvTOOvKUOPvLOMvNSHIEEwGOPvMAEMvNGKEUXxOQwSHUEvRIMGBAvNJEUXvPEEMvSAAvNGGURAEvMGBAvGHEUX
vNGKEUAEMwJAEMLIvMAPvLOOTvNGGEEEEwDIQvTA~_NTEUMvSETvPUMvNDAA>OFTNESSwGGUAESHA;NYAMvYIEEvGHEUNvTUAE
vYEUAEvPOvTUMAEvKEUAEvSUA~vTEUAEQvVEUAEvWEUXvLAAMvPUvTAAQvGHAAMAEvNGEUREUTvSHEUAEQvMGB~wBEEvNZAQwKOM
vGBETvTUMvKUETvYAPvNYI_C|AV,vYITvMFEUQvNDIAQvPIEEQvYUEQv|UAEMvFUEvGBEUXvNGKUPvKETvMAEvNGKAAMIvGHET
vFAvNTUMvPEUTvYEUMvNGGEUAEwYI_BETWE~wZUQvPO@vMIEEvFUETvNAEvMUAEvGHEUAEvFU_IvMVIvPUAQvNGKUMvKUTvPIET
vNTAPvYEUAETvNGGUPvPA_PEOP|vFU_C&LwOMvNJEEvAvTOQvOvIvLAQvPA_PLUR&vTAAxQvNDAA_MY_HOUSEvSHIQvYEUX
vNGUAEvYUA~wOQ>WIMM:Gy_COV,wUQxNvKEUXvPEUXvNJE;EPOCHvPUEvWUEvFEEvVEEvLUvMIvREUXwAEvNGUAETxAvSHOyQ
vFU_REMEDYvNAvPIvLOQvKOvM~wAxQvTEUvKIvM@vT~vFAQvGHOMtF_KAvUvKUvEEvREEvTAEvNYIvLAvRIIxEEvMEEEEvTAA
vNDAAwJAEMvMvSUUwHIIwIwEUXvKYEEwETvNUAExwJUAEvYOQvSHUvYAvNSHAvPEUXvNTEEvWUEvPEEvRUvNIvREUXvK~vNGKWA~
xGAvSHOvPUAEvFOMvWAvLIwOQvKOvMB~vR~vMAwOwBAAvTETvKPAvSAMBAvVUEQz16A40aMRO_|TT,_TAlNGIlYOlMIMlBAlDAlA
lPHIlKHAIlHAOlDAIlCHUlKEAAElOLlMAEMlN:lPAlOOmlROlSHIlTHEAlEAlWAlElKOlL=nlHAIlRIlTEKz16A60eDIGIT_Z,O
k@EkTWOlHREEkFOURlIVEkSIXlEV~kE.kN:Ez16A6Ef=DAfOUBL;D=DAaT=GSA_|TT,_OZpCpQpXoAZpCpQpXoVZpCpQpXoEZpC
pQpXoIZpCpQpXoUZpCpQpXoAWZqCqQqXoUIZqCqQqXoF:&_NGoL@G_UEXoSHORT_UEZuAWXoUECqZqQqXpIUZrCrQrXoMZpCpQpX
oKApHAoGAoNGAoSAoYAoWAoPAoNYAoPHAoBAoMAoNAoHAoLAoHTAoTAoDAoRAoNHAoSHAoCAoTSAoGHAoHTTAoTHAoXAoFAoDHA
oCHAoZAz16AC0hDIGIT_Z,On@EnTWOoHREEnFOURoIVEnSIXoEV~nE.nN:Ez16AD0aBASSA_VAH_|TT,_~NIrKArSErFArMBE
rYIErGAHrDHIIrKPAHrJOrHWAHrWArZOrGBUrDOrCErUWUrTOrBArVUrYE:rPArWADDArArOsOrUrEEsrI
z16AF0kCOMB::G_HIGH_T@EuLOW_T@EuMI^T@EuLOW-MI^T@EuHIGH-LOW_T@EkFULL>TOPz16B00aPAHAWH_HM@G_VOWEL_KEEB
wVuIBvVuAUBwVuUBvVuEBvVuAIBwVuOOBwVuAWBwVuUABwVuOBvVuIABwVuABvVuWBvVuAABwVnC@S@=T_VAUxNTSAUxLAUxHAU
xNLAUxRAUxNKAUxQHAUxYAUxHLAUxMAUxCHAUxNCHAUxHNAUxPLHAUxNTHAUyAUxAUxXAUxCAUnM+K_CIM_TUBwSOwKESxHAV
wSUAMwHOMwTAUMnSIGN_VOS_THOMxSHAB_CEEBsCIM_CHEEMsVOS_THIABwFEEMsXYEEM_NTXIVyRHOyTOVyFAIBsVOS>EEV
sMEEJ>UABsVOS_NRUAsIB_YAMsXAUSsCIM_TSOV_ROGz16B50nDIGIT_Z,Ot@EtTWOuHREEtFOURuIVEtSIXuEV~tE.tN:E
z16B5BnNUMB,_T~SuHUNDREDSuT~_THOUS=DSuMILLI@SuHUNDRE^MILLI@SuT~_BILLI@SvRILLI@Sz16B63nSIGN_VOS_LUB
sXYOOsHLIsTHIRD-STAG;HLIsZWJ_THAJsHNUBsNQIGsXIABsNTUJsAVsTXHEEJ_CEEVsMEEJ_TSEEBsTAUsLOSsMUS
sCIM_HAIS_LUS_NTOG_NTOGwCUAM_TSHOOJwTXWVyWV_CHWVwPUB_DAWBwNRES_TOSz16B7DnCL=>IGN_TSHEEJxYEEGxLISyAUJ
xXYOOJxKOOxHAWJxMUASxTHOJySABxPHABxKHABxHAMxVAJxFAJxYAJxTSWBxKWMxVWJz16E40aMEDEFAIDR:_%!My,>y,_Vy,_W
y,_ATIUy,_Zy,_KPy,_Py,_Ty,_Gy,_Fy,_Iy,_Ky,_Ay,_Jy,_Ey,_By,_Cy,_Uy,_YUy,_Ly,_Qy,_HPy,_NYy,_Xy,_Dy,_OE
y,_Ny,_Ry,_Oy,_AIy,_YmSM&!My>y_Vy_Wy_ATIUy_Zy_KPy_Py_Ty_Gy_Fy_Iy_Ky_Ay_Jy_Ey_By_Cy_Uy_YUy_Ly_Qy_HP
y_NYy_Xy_Dy_OEy_Ny_Ry_Oy_AIy_YmDIGIT_Z,Os@EsTWOtHREEsFOURtIVEsSIXtEV~sE.sN:EmNUMB,_T~tE|V~tTWELVE
uHIRTE~tFOURTE~uIFTE~tSIXTE~uEV~TE~tE.E~tN:ETE~mDIGIT_@;&T,NAT;FORMsTWO_&T,NAT;FORMtHRE;&T,NAT;FORM
mCOMMAmFULL>TOPmSYMBOL_AIVAmEXCLAMATI@_OHz16F00bIAO_|TT,_PAmBAmYI_PAmPLAmMAnHAm+CHAIC_MAmFAmVAnFAmTA
mDAmYI_TTAqAmTTAmDDAmNAnHAmYI_NNAm+CHAIC_NAmNNAoHAmLAnYAnHAoYAmTLHAmDLHAmTLHYAmDLHYAmKAmGAmYI_KAmQA
nGAmNGAoHAm+CHAIC_NGAmHAmXAmGHAoHAmTSSAmDZZAmNYAoHAmTSHAmDZHAmYI_TSHApDZHAmREFORME^TSHAmSHAnSAmZHA
nSHAmTSAmDZAmYI_TSAmSAmZAnSAnZAoSAm+CHAIC_ZZAmZZYAoSYAmWAmAHmHHAmBRImSYImDZYImTEnSEmRTE
z16F4FfSIGN_C@S@=T_MODIFI,_B+f|TT,_NAS&IZATI@fSIGN_ASPIRATI@kREFORME^VOIC:GtASPIRATI@fVOWEL>IGN_ArA
rHHrNsGqOrOqWOrqErNsGqOEYqIrAsNtGrOrErIrUrNGqUrAsNtGrUrEIrNGqYrIqAEsEq,RqROUNDE^,Rq,qROUNDE^,qAIqEI
qAUqOUqNrGqUOGqYUIqOGr,qVWqIGqEAqI@GqUIz16F8FfT@;R.kTOP_R.kABOVEkBELOWf|TT,_T@E-2r3r4r5r6r7r8
mREFORME^T@E-1yE-2yE-4yE-5yE-6yE-8z16FE0aT=GUT_IT,ATI@_M+KaNUSHU_IT,ATI@_M+KaOL^CH:ES;HOOK_M+K
mIT,ATI@_M+KaKHIT=>M&L>CRIPT_FILL,z16FF0aVIETNAMES;&T,NAT;READ:G_M+K_CAyD:G_M+K_NHAY
z18800aT=GUT_COMP@~T-001t2t3t4t5t6t7t8t9s10t1t2t3t4t5t6t7t8t9s20t1t2t3t4t5t6t7t8t9s30t1t2t3t4t5t6t7
t8t9s40t1t2t3t4t5t6t7t8t9s50t1t2t3t4t5t6t7t8t9s60t1t2t3t4t5t6t7t8t9s70t1t2t3t4t5t6t7t8t9s80t1t2t3t4
t5t6t7t8t9s90t1t2t3t4t5t6t7t8t9r100t1t2t3t4t5t6t7t8t9s10t1t2t3t4t5t6t7t8t9s20t1t2t3t4t5t6t7t8t9s30t1
t2t3t4t5t6t7t8t9s40t1t2t3t4t5t6t7t8t9s50t1t2t3t4t5t6t7t8t9s60t1t2t3t4t5t6t7t8t9s70t1t2t3t4t5t6t7t8t9
s80t1t2t3t4t5t6t7t8t9s90t1t2t3t4t5t6t7t8t9r200t1t2t3t4t5t6t7t8t9s10t1t2t3t4t5t6t7t8t9s20t1t2t3t4t5t6
t7t8t9s30t1t2t3t4t5t6t7t8t9s40t1t2t3t4t5t6t7t8t9s50t1t2t3t4t5t6t7t8t9s60t1t2t3t4t5t6t7t8t9s70t1t2t3
t4t5t6t7t8t9s80t1t2t3t4t5t6t7t8t9s90t1t2t3t4t5t6t7t8t9r300t1t2t3t4t5t6t7t8t9s10t1t2t3t4t5t6t7t8t9s20
t1t2t3t4t5t6t7t8t9s30t1t2t3t4t5t6t7t8t9s40t1t2t3t4t5t6t7t8t9s50t1t2t3t4t5t6t7t8t9s60t1t2t3t4t5t6t7t8
t9s70t1t2t3t4t5t6t7t8t9s80t1t2t3t4t5t6t7t8t9s90t1t2t3t4t5t6t7t8t9r400t1t2t3t4t5t6t7t8t9s10t1t2t3t4t5
t6t7t8t9s20t1t2t3t4t5t6t7t8t9s30t1t2t3t4t5t6t7t8t9s40t1t2t3t4t5t6t7t8t9s50t1t2t3t4t5t6t7t8t9s60t1t2
t3t4t5t6t7t8t9s70t1t2t3t4t5t6t7t8t9s80t1t2t3t4t5t6t7t8t9s90t1t2t3t4t5t6t7t8t9r500t1t2t3t4t5t6t7t8t9
s10t1t2t3t4t5t6t7t8t9s20t1t2t3t4t5t6t7t8t9s30t1t2t3t4t5t6t7t8t9s40t1t2t3t4t5t6t7t8t9s50t1t2t3t4t5t6
t7t8t9s60t1t2t3t4t5t6t7t8t9s70t1t2t3t4t5t6t7t8t9s80t1t2t3t4t5t6t7t8t9s90t1t2t3t4t5t6t7t8t9r600t1t2t3
t4t5t6t7t8t9s10t1t2t3t4t5t6t7t8t9s20t1t2t3t4t5t6t7t8t9s30t1t2t3t4t5t6t7t8t9s40t1t2t3t4t5t6t7t8t9s50
t1t2t3t4t5t6t7t8t9s60t1t2t3t4t5t6t7t8t9s70t1t2t3t4t5t6t7t8t9s80t1t2t3t4t5t6t7t8t9s90t1t2t3t4t5t6t7t8
t9r700t1t2t3t4t5t6t7t8t9s10t1t2t3t4t5t6t7t8t9s20t1t2t3t4t5t6t7t8t9s30t1t2t3t4t5t6t7t8t9s40t1t2t3t4t5
t6t7t8t9s50t1t2t3t4t5t6t7t8t9s60t1t2t3t4t5t6t7t8z1AFF0aKATAK=A_|TT,_M:N=_T@E-2y@E-3y@E-4y@E-5
z1AFF5y@E-7y@E-8xNAS&IZE^T@E-1yAS&IZE^T@E-2yAS&IZE^T@E-3yAS&IZE^T@E-4yAS&IZE^T@E-5
z1AFFDyAS&IZE^T@E-7yAS&IZE^T@E-8z1B000q+CHAIC_EaHIRAG=A_|TT,_+CHAIC_YEb~TAIG=A_|TT,_A-1u2u3uWOsI-1u2
u3u4sU-1u2u3u4u5sE-2u3u4u5u6sO-1u2u3sKA-1v2v3v4v5v6v7v8v9v10w1vKEtI-1v2v3v4v5v6v7v8tU-1v2v3v4v5v6v7
tE-1v2v3v4v5v6tO-1v2v3vKIsSA-1v2v3v4v5v6v7v8tI-1v2v3v4v5v6tU-1v2v3v4v5v6v7v8tE-1v2v3v4v5tO-1v2v3v4v5
v6v7sTA-1v2v3v4tI-1v2v3v4v5v6v7tU-1v2v3v4vTOtE-1v2v3v4v5v6v7v8v9tO-1v2v3v4v5v6vRAsNA-1v2v3v4v5v6v7v8
v9tI-1v2v3v4v5v6v7vTEtU-1v2v3tE-1v2v3v4v5v6vKOtO-1v2v3v4v5sHA-1v2v3v4v5v6v7v8v9v10w1tI-1v2v3v4v5v6v7
tU-1v2v3tE-1v2v3v4v5v6v7tO-1v2v3v4v5v6v7v8sMA-1v2v3v4v5v6v7tI-1v2v3v4v5v6v7tU-1v2v3v4tE-1v2vMAtO-1v2
v3v4v5v6sYA-1v2v3v4v5vYOtU-1v2v3v4tO-1v2v3v4v5v6sRA-1v2v3v4tI-1v2v3v4v5v6v7tU-1v2v3v4v5v6tE-1v2v3v4
tO-1v2v3v4v5v6sWA-1v2v3v4v5tI-1v2v3v4v5tE-1v2v3v4tO-1v2v3v4v5v6v7sN-MU-MO-1yO-2
bIRAG=A_|TT,_+CHAIC_WUaKATAK=A_|TT,_+CHAIC_YIyYEyWUz1B150aHIRAG=A_|TT,>M&L_WIxExO
z1B164aKATAK=A_|TT,>M&L_WIxExOwNz1BC00aDUPLOY=_|TT,_HqXqPqTqFqKqLqBqDqVqGqRqP_NqD>qF_NqK_MqR>qTH
qSLO=_DHqDHqKKqSLO=_JqHLqLHqRHqMqNqJqSqM_NqN_MqJ_MqS_JqM$DOTqN$DOTqJ$DOTyOTS_:SID;=^ABOVEqS$DOT
yOT_BELOWqM>qN>qJ>qS>qM_N>qN_M>qJ_M>qS_J>qJ>$DOTsNt>qS_Tt_RsPt_RqT>sR>qWrHr_RqS_NsMqK_R>qG_R>qS_Kt_R
qAqSLO=_OWqOArqAOUqIqEqIEqSHORT_IqUIqEEqSLO=_EHqROM=I=_IqSLO=_EEqL@G_IqYEqUqEUqXWqU_NqL@G_UqROM=I=_U
qUHqSLO=_UqOOHrWrUqWArOrIrEIrOWqNAS&_UwOwIwAqP,N:_=yMqSLO=_~w=w@qVOC&IC_M
z1BC70jAFFIX_|FT_HORIZ@T&>EC=TpMI^HORIZ@T&>EC=TpR._HORIZ@T&>EC=TpLOW_V,TIC&>EC=TpMI^V,TIC&>EC=T
pHIGH_V,TIC&>EC=TpATTACHED>EC=Ty|FT-TO-R.>EC=TyT=G~TyTAILy;HOOKyI_HOOKyT=G~T_HOOKz1BC80pHIGH_ACUTE
uT._ACUTEuGRAVEuL@G_GRAVEuDOTuCIRC|uL:EuWAVEuV,TIC&z1BC90pLOW_ACUTEtT._ACUTEtGRAVEtL@G_GRAVEtDOT
tCIRC|tL:EtWAVEtV,TIC&t+ROWz1BC9CjSIGN_O$CROSSjTHICK_|TT,>E|CTORjDOUBL;M+K
jPUNCTUATI@_CH:OOK_FULL>TOPaSHORTH=D<AT_|TT,_OV,LAPrC@T:U:G_OV,LAPrDOWN>TEPrUP>TEP
z1CF00aZNAM~NY_COMB::G_M+K_GORAZDO_NIZKO>_KRYZHEM_@_|FTyNIZKO>_KRYZHEM_@_|FTyTSATA_@_|FT
yGORAZDO_NIZKO_@_|FTyNIZKO_@_|FTySREDN;@_|FTyM&O_POVYSH;@_|FTyPOVYSH;@_|FTyVYSOKO_@_|FT
yM&O_POVYSH;S_KHOKHLOM_@_|FTyPOVYSH;S_KHOKHLOM_@_|FTyVYSOKO>_KHOKHLOM_@_|FT
yGORAZDO_NIZKO>_KRYZHEM_@_R.yNIZKO>_KRYZHEM_@_R.yTSATA_@_R.yGORAZDO_NIZKO_@_R.yNIZKO_@_R.ySREDN;@_R.
yM&O_POVYSH;@_R.yPOVYSH;@_R.yVYSOKO_@_R.yM&O_POVYSH;S_KHOKHLOM_@_R.yPOVYSH;S_KHOKHLOM_@_R.
yVYSOKO>_KHOKHLOM_@_R.yTSATA>_KRYZHEMyM&O_POVYSH;S_KRYZHEMySTR=NO_M&O_POVYSHEyPOVYSH;S_KRYZHEM
yPOVYSH;STR=NOyVYSOKO>_KRYZHEMyM&O_POVYSH;STR=NOyGORAZDO_VYSOKOyZELOy@yRAVNOyTIKHAYAyBORZAYAyUD+KA
yPODV,TKAyLOMKAyKUPNAYAyKACHKAyZEVOKySKOBAyRAZSEKAyKRYZH_@_|FTz1CF30tT@&_R=G;M+K_MRACHNO
y_R=G;M+K>VETLOy_R=G;M+K_TRESVETLOtM+K_ZAD,ZHKAyDEMESTV~NY_ZAD,ZHKAyOTSECHKAyPODCHASHIE
yPODCHASHIE$V,TIC&>TROKEyCHASHKAyCHASHKA_POLNAYAyOBLACHKOySOROCHYA_NOZHKAyTOCHKAyDVOETOCHIE
tATTACH:G_V,TIC&_OMETtM+K_CURVE^OMETyKRYZHtLOW,_T@&_R=G;:DICATORjPRIZNAK_MODIFI,_|VEL-2yR_|VEL-3
yR_DIRECTI@_FLIPyR_KRYZHyR_ROGz1CF50jNEUM;KRYUKu_TIKHYpP+AKLITpDVA_V_CHELNUpKLYUCHpZ=OZHEKpSTOPITSA
x>_OCHKOMpP,EVODKAy_NEPOSTOY=NAYApSTOPITSA$SOROCHYA_NOZHKApCHELYUSTKApP&KApZAPYATAYApGOLUBCHIK_BORZY
y_TIKHYy_MRACHNYy>VETLYy_TRESVETLYpVRAKHIYA_PROSTAYAyMRACHNAYAySVETLAYAyTRESVETLAYA
yKLYUCHEVAYA_PROSTAYAyKLYUCHEVAYA_MRACHNAYAyKLYUCHEVAYA>VETLAYAyKLYUCHEVAYA_TRESVETLAYA
pDOUBL;ZAPYATAYApREV,SE^CHELYUSTKApD,BITSApKHAMILOpCHASHKApPODCHASHIEpSKAMEYTSA_MRACHNAYAy>VETLAYA
y_TRESVETLAYAy_TIKHAYApDEMESTV~NY_KLYUCHpSKAMEYTSA_KLYUCHEVAYA>VETLAYAy_KLYUCH~EPOSTOY=NAYA
y_KLYUCHEVAYA_TIKHAYAy_DVOECHELNAYA_PROSTAYAy_DVOECHELNAYA>VETLAYAy_DVOECHELNAYA_NEPOSTOY=NAYA
y_DVOECHELNAYA_KLYUCHEVAYAqLOZHITIEy>_ZAPYATOYy_ZAKRYTOEy>_KRYZHEMpKRYZHpROGpFITApKOBYLApZMEYTSA
pSTATYAv>_ZAPYATOYyKRYZHEMyZAPYATOY_I_KRYZHEMyKRYZHEM_I_ZAPYATOYwZAKRYTAYAyKRYTAYA>_ZAPYATOYwS_ROGOM
yDVUMYA_ZAPYATYMIyZAPYATOY_I_PODCHASHIEMpPOLKULIZMYpSTATYA_NEPOSTOY=NAYArRELA_PROSTAYA
wMRACHNOTIKHAYAwKRYZHEVAYAwPOLUPOVODNAYAyVODNAYAwNEPOSTOY=NAYAwKLYUCHEPOVODNAYAyYUCH~EPOSTOY=NAYA
wTIKHAYA_PUTNAYAwDVOECHELNAYAyOECHELNOKRYZHEVAYAyOECHELNOPOVODNAYAyOECHELNAYA_KLYUCHEVAYA
yOECHELNOPOVODNAYA_KLYUCHEVAYAwGROMNAYA$S:GL;ZAPYATAYAyOMOPOVODNAYA$S:GL;ZAPYATAYAyOMNAYA
yOMOPOVODNAYAyOMOPOVODNAYA$DOUBL;ZAPYATAYAyOMOKRYZHEVAYAyOMOKRYZHEVAYA_POVODNAYApMECHIKv_POVODNY
wKLYUCHEVOYyYUCHEPOVODNYyYUCH~EPOSTOY=NYpSTRELA_TRYASOGLASNAYAyYASOPOVODNAYAyYASOSTRELNAYApOSOKA
u>VETLAYAvTRESVETLAYAvKRYUKOVAYA>VETLAYAwLYUCHEVAYA>VETLAYAyUCHEVAYA_NEPOSTOY=NAYApSTRELA_KRYUKOVAYA
yYUKOVAYA_POVODNAYAyYUKOVAYA_GROMNAYA$S:GL;ZAPYATAYAyYUKOVAYA_GROMOPOVODNAYA$S:GL;ZAPYATAYA
yYUKOVAYA_GROMNAYAyYUKOVAYA_GROMOPOVODNAYAyYUKOVAYA_GROMOPOVODNAYA$DOUBL;ZAPYATAYA
yYUKOVAYA_GROMOKRYZHEVAYAyYUKOVAYA_GROMOKRYZHEVAYA_POVODNAYAyYUKOVAYA_TRYASKApKUFISMApOBLAKOpDUDA
pNEMKApPAUK"

end Conform
